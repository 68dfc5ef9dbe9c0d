import LanguageServer.Scenario.World
import LanguageServer.Server.Step

/-! The server on a clock, between a scripted compiler and a scripted editor. -/

namespace LanguageServer.Scenario.Conversation

open Server

/-- What becomes of a message, as JSON. Of parameters that do not fit only the code is told. -/
def answerJson : Answer → Json
  | .nothing => .null
  | .result value => .object [("result", value)]
  | .refusal .invalidParams =>
    .object [("error", .object [("code", Json.int Refusal.invalidParams.code)])]
  | .refusal refusal =>
    .object [("error", .object
      [("code", Json.int refusal.code), ("message", .string refusal.message)])]
  | .exited => .string "exited"

/-- How the editor fulfils a wish, if it does, and when. -/
def fulfil (world : World Answer) (now : Nat) : Wish → Agenda.When × Option Json
  | .settings _ scope =>
    let (time, answer) := world.reply now scope
    (time, if world.editor.manner = .answers then some (answer.getD .null) else none)
  | .registration _ =>
    (World.afterDelay world.editor.delay,
      if world.editor.manner = .refuses then none else some .null)

/-- What the surroundings make of an effect: what is seen, and what reaches the server later. -/
def perform (world : World Answer) (now : Nat) :
    Effect → World Answer × List (Agenda.When × Input)
  | .answer ticket answer => (world.finish now ticket answerJson answer, [])
  | .notify method params => (world.note now (.send method params false), [])
  | .ask wish method params =>
    let (time, answer) := fulfil world now wish
    (world.note now (.send method params true), [(time, .replied wish answer)])
  | .unsent wish => (world, [(.atOnce, .replied wish none)])
  | .call id executable arguments contents =>
    let (world, time, ending) := world.call now executable arguments contents
    (world, [(time, .session (.ended id ending))])
  | .rest uri ticket => (world, [(.after world.rest, .session (.rested uri ticket))])
  | .queue id => (world, [(.after 0, .session (.turn id))])

def performAll (world : World Answer) (now : Nat) :
    List Effect → World Answer × List (Agenda.When × Input)
  | [] => (world, [])
  | effect :: rest =>
    let (world, planned) := perform world now effect
    let (world, more) := performAll world now rest
    (world, planned ++ more)

/-- The server in its surroundings. -/
structure State where
  server : Server
  world : World Answer

/-- The server and its surroundings as a machine. From one input there follow at most those of one
validation for each open document. -/
def machine : Machine State Input where
  handle now state input :=
    let (server, effects) := state.server.step state.world.host input
    let (world, planned) := performAll state.world now effects
    (⟨server, world⟩, planned)
  cost state _ := 4 * state.server.session.documents.size + 4

end Conversation

/-- The server on its clock. -/
abbrev Conversation := Simulation Conversation.State Server.Input

namespace Conversation

open Server

/-- What can be done with the server and its surroundings. -/
inductive Step
  | send (message : Message)
  /-- Sends a message and does not wait for its answer. -/
  | background (message : Message)
  | advance (time : Nat)
  | compiler (script : ScriptedCompiler)
  | editor (script : ScriptedEditor)

/-- Whether an input continues what a message started. -/
def continues (ticket : Ticket) (operation : Session.OperationId) : Input → Bool
  | .replied (.settings id _) _ => id == operation
  | .replied (.registration other) _ => other == ticket
  | .session (.ended id _) => id == operation
  | _ => false

def mapWorld (conversation : Conversation) (change : World Answer → World Answer) : Conversation :=
  { conversation with
    state := { conversation.state with world := change conversation.state.world } }

def await (conversation : Conversation) (ticket : Ticket) (message : Message) :
    Conversation × Option Answer :=
  let operation := conversation.state.server.session.nextOperation
  let conversation := Simulation.feed machine conversation (.receive ticket message)
  let conversation := conversation.run machine
    { prefer := continues ticket operation
      stop := fun state => state.world.finished.contains ticket }
  (conversation, conversation.state.world.finished.get? ticket)

/-- Does a step, without what is due by now. -/
def act (conversation : Conversation) (number : Nat) : Step → Conversation × Option Answer
  | .send message => conversation.await number message
  | .background message =>
    let conversation := conversation.mapWorld fun world =>
      { world with background := world.background.put number number }
    (Simulation.feed machine conversation (.receive number message), none)
  | .advance time => (Simulation.advance machine conversation time, none)
  | .compiler script =>
    (conversation.mapWorld fun world => { world with compiler := script }, none)
  | .editor script => (conversation.mapWorld fun world => { world with editor := script }, none)

/-- Whether documents take part in a step that have no order among themselves. -/
def isUnordered : Step → Bool
  | .advance _ => true
  | .send message => message.method == "workspace/didChangeConfiguration"
  | .background message => message.method == "workspace/didChangeConfiguration"
  | _ => false

/-- Does a step and then all that is due, and gives the events of the step. -/
def step (conversation : Conversation) (number : Nat) (step : Step) :
    Conversation × Option Answer × List (Nat × Event) :=
  let conversation := conversation.mapWorld fun world => { world with events := [] }
  let (conversation, answer) := conversation.act number step
  let conversation := conversation.settle machine
  let events := conversation.state.world.events
  let events := if isUnordered step then events.mergeSort byKey else events
  (conversation, answer, events.mergeSort byKind)

end Conversation

end LanguageServer.Scenario
