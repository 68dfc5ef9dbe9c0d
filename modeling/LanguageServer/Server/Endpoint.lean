import LanguageServer.Server.Step
import LanguageServer.Server.Wire

/-! The server at its end of a connection: texts of the editor come in and messages go out. -/

namespace LanguageServer.Server

/-- The server and what it has to remember about the connection. -/
structure Endpoint where
  server : Server := {}
  /-- The number of texts that came. -/
  received : Nat := 0
  /-- The ids of the requests that have no answer yet. -/
  unanswered : Table Ticket RequestId := ∅
  /-- The number of requests to the editor. -/
  asked : Nat := 0
  /-- The wishes that the editor has not answered yet. -/
  wishes : Table Nat Wish := ∅
  /-- Whether nothing more is read. Then only answers are sent. -/
  closed : Bool := false

namespace Endpoint

/-- What happens outside of the connection's end. -/
inductive Act
  | send (outgoing : Outgoing)
  /-- Calls the compiler with a file that holds a text. -/
  | call (id : Session.OperationId) (executable : Path) (arguments : List String)
      (contents : String)
  /-- Lets the time begin that a document should be at rest. -/
  | rest (uri : Uri) (ticket : Nat)
  /-- An input for the server before everything else. -/
  | atOnce (input : Input)
  /-- An input for the server behind everything else. -/
  | later (input : Input)

/-- The answer to a text, if it is one that is sent. -/
def reply? (id : RequestId) : Answer → Option Outgoing
  | .result value => some (.result id value)
  | .refusal refusal => some (.refusal id refusal)
  | .nothing => none
  | .exited => none

/-- Sends something that is not an answer. -/
def speak (endpoint : Endpoint) (outgoing : Outgoing) : List Act :=
  if endpoint.closed then [] else [.send outgoing]

/-- What an effect of the server means for the connection. -/
def perform (endpoint : Endpoint) : Effect → Endpoint × List Act
  | .answer ticket answer =>
    let sent := (endpoint.unanswered.get? ticket).bind (reply? · answer)
    ({ endpoint with unanswered := endpoint.unanswered.erase ticket }, (sent.map Act.send).toList)
  | .notify method params => (endpoint, endpoint.speak (.notification method params))
  | .ask wish method params =>
    ({ endpoint with
        asked := endpoint.asked + 1, wishes := endpoint.wishes.put endpoint.asked wish },
      endpoint.speak (.request endpoint.asked method params))
  | .unsent wish => (endpoint, [.atOnce (.replied wish none)])
  | .call id executable arguments contents =>
    (endpoint, [.call id executable arguments contents])
  | .rest uri ticket => (endpoint, [.rest uri ticket])
  | .queue id => (endpoint, [.later (.session (.turn id))])

def performAll (endpoint : Endpoint) : List Effect → Endpoint × List Act
  | [] => (endpoint, [])
  | effect :: rest =>
    let (endpoint, acts) := endpoint.perform effect
    let (endpoint, more) := endpoint.performAll rest
    (endpoint, acts ++ more)

/-- Gives the server an input. -/
def step (host : Session.Host) (endpoint : Endpoint) (input : Input) : Endpoint × List Act :=
  let (server, effects) := endpoint.server.step host input
  { endpoint with server := server }.performAll effects

/-- What the editor's answer to a wish contains. Settings come in a list. -/
def content? : Wish → Option Json → Option Json
  | .settings .., some (.array items) => items.head?
  | .settings .., _ => none
  | .registration _, result => result

/-- Takes a text of the editor. After one that cannot be understood, or after the end of the
conversation, nothing more is read. An empty text is no message. -/
def receive (host : Session.Host) (endpoint : Endpoint) (text : String) : Endpoint × List Act :=
  if endpoint.closed || endpoint.server.phase == .exited || text.isEmpty then (endpoint, [])
  else
    match Incoming.ofText text with
    | .error cause => ({ endpoint with closed := true }, [.send (.garble cause)])
    | .ok (.message message) =>
      let ticket := endpoint.received
      let requests := match message.id with
        | some id => endpoint.unanswered.put ticket id
        | none => endpoint.unanswered
      { endpoint with received := ticket + 1, unanswered := requests }.step host
        (.receive ticket message)
    | .ok (.reply id result) =>
      let number := match id with
        | .number value => if 0 ≤ value then some value.toNat else none
        | _ => none
      match number.bind fun number => (endpoint.wishes.get? number).map (number, ·) with
      | some (number, wish) =>
        { endpoint with wishes := endpoint.wishes.erase number }.step host
          (.replied wish (content? wish result))
      | none => (endpoint, [])

end Endpoint

end LanguageServer.Server
