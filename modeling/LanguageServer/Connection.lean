import LanguageServer.Clock.Simulation
import LanguageServer.CommandLine
import LanguageServer.Launcher
import LanguageServer.Locator
import LanguageServer.Scratch
import LanguageServer.Server.Endpoint

/-! The whole server on a clock: an editor at the other end of the connection, and the compiler as a
program in a tree of files. -/

namespace LanguageServer.Connection

open Server

/-- How long it takes at least to run a program, in milliseconds. -/
def startTime : Nat := 5

/-- What the server finds where it runs. -/
structure Place where
  launcher : Launcher
  /-- The path of the current directory. -/
  current : Path
  /-- How long a document has to be at rest, in milliseconds. -/
  rest : Nat := 1000

/-- How the server looks for the compiler. -/
def Place.locator (place : Place) : Locator where
  isProgram := place.launcher.tree.isProgram place.launcher.directory
  current := place.current
  search := some place.launcher.search
  home := place.launcher.home

/-- What the session depends on. -/
def Place.host (place : Place) : Session.Host where
  locate := place.locator.locate?
  scratch id := some (Scratch.filePath id)

/-- A call of the compiler, which finds the file that was made for it. -/
def Place.call (place : Place) (executable : Path) (arguments : List String) (contents : String) :
    Nat × Compiler.Ending :=
  let file := FileTree.names ((arguments[1]?).getD "") |>.filter (· != "")
  let tree := place.launcher.tree.put file (.file false contents)
  let (time, ending) := { place.launcher with tree := tree }.run executable arguments
  match ending with
  | .ok output => (time + startTime, .ok output)
  | .error fault => (time + 1, .error fault)

/-- The server's end of the connection, and what the editor has not read yet. -/
structure State where
  place : Place
  endpoint : Endpoint
  unread : List Outgoing := []

/-- What an act means: a message to read, or inputs that come later. -/
def perform (state : State) : Endpoint.Act → State × List (Agenda.When × Input)
  | .send outgoing => ({ state with unread := state.unread ++ [outgoing] }, [])
  | .call id executable arguments contents =>
    let (time, ending) := state.place.call executable arguments contents
    (state, [(.after time, .session (.ended id ending))])
  | .rest uri ticket => (state, [(.after state.place.rest, .session (.rested uri ticket))])
  | .atOnce input => (state, [(.atOnce, input)])
  | .later input => (state, [(.after 0, input)])

def performAll (state : State) : List Endpoint.Act → State × List (Agenda.When × Input)
  | [] => (state, [])
  | act :: rest =>
    let (state, planned) := perform state act
    let (state, more) := performAll state rest
    (state, planned ++ more)

/-- The server in its place as a machine. From one input there follow at most those of one
validation for each open document. -/
def machine : Machine State Input where
  handle _ state input :=
    let (endpoint, acts) := state.endpoint.step state.place.host input
    performAll { state with endpoint := endpoint } acts
  cost state _ := 4 * state.endpoint.server.session.documents.size + 4

end LanguageServer.Connection

namespace LanguageServer

/-- The server on its clock. -/
abbrev Connection := Simulation Connection.State Server.Input

namespace Connection

open Server

/-- What the editor reads for. -/
inductive Goal
  /-- The answer to a request. -/
  | answer (id : RequestId)
  /-- A message with a method. -/
  | method (name : String)

/-- Whether a message is the one that is waited for. A text can be an id or a method. -/
def Goal.isMet (goal : Goal) (outgoing : Outgoing) : Bool :=
  match goal with
  | .answer id => outgoing.answers? == some id
  | .method name => outgoing.method? == some name || outgoing.answers? == some (.text name)

def start (place : Place) (options : CommandLine.Options) : Connection :=
  let launcher := { place.launcher with timeout := options.timeout }
  let place := { place with launcher := launcher, rest := options.debounce }
  let general : Settings := { compilerPath := options.compilerPath }
  { state :=
      { place := place
        endpoint := { server := { debug := options.debug, session := { general := general } } } } }

/-- Sends a text and lets happen what is due. -/
def send (connection : Connection) (text : String) : Connection :=
  let state := connection.state
  let (endpoint, acts) := state.endpoint.receive state.place.host text
  let (state, planned) := performAll { state with endpoint := endpoint } acts
  let connection : Connection := ⟨state, connection.agenda.planAll planned⟩
  connection.settle machine

def take (connection : Connection) (count : Nat) : Connection × List Outgoing :=
  let unread := connection.state.unread
  ({ connection with state := { connection.state with unread := unread.drop count } },
    unread.take count)

/-- Reads until a message has come, or until no other can come. -/
def await (connection : Connection) (goal : Goal) : Connection × List Outgoing :=
  let connection : Connection :=
    connection.run machine { stop := fun state => state.unread.any goal.isMet }
  let before := connection.state.unread.takeWhile (!goal.isMet ·)
  connection.take (before.length + 1)

def takeAll (connection : Connection) : Connection × List Outgoing :=
  connection.take connection.state.unread.length

/-- Ends the connection and reads all that is left. -/
def close (connection : Connection) : List Outgoing :=
  let state := connection.state
  let state := { state with endpoint := { state.endpoint with closed := true } }
  let connection : Connection := { connection with state := state }
  let connection := connection.run machine { stop := fun state => state.endpoint.unanswered.size == 0 }
  connection.state.unread

/-- Sends texts in turn, waits after each for what there is to wait for, and gives all messages that
came. -/
def converse (connection : Connection) : List (String × Option Goal) → List Outgoing
  | [] => connection.close
  | (text, none) :: rest => converse (connection.send text) rest
  | (text, some goal) :: rest =>
    let (connection, read) := (connection.send text).await goal
    read ++ converse connection rest

end Connection

end LanguageServer
