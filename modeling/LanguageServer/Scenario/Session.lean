import LanguageServer.Protocol.Encode
import LanguageServer.Scenario.World
import LanguageServer.Session.Step

/-! Sessions on a clock, between a scripted compiler and a scripted editor. -/

namespace LanguageServer.Scenario

open Session

def outcomeJson : Outcome → Json
  | .published count => .object [("published", Json.nat count)]
  | .skipped => .string "skipped"
  | .stale => .string "stale"
  | .failed => .string "failed"

/-- The answer to a question as JSON. A symbol can be told from a failure. -/
def replyJson : Reply → Json
  | .symbol (.ok symbol) => .object [("ok", symbol.toJson)]
  | .symbol (.error failure) =>
    .object [("error", .string failure.code), ("message", .string failure.message)]
  | reply => reply.toJson

def resultJson : Result → Json
  | .none => .null
  | .outcome outcome => (outcome.map outcomeJson).getD .null
  | .count documents => Json.nat documents
  | .reply reply => (reply.map replyJson).getD .null

/-- What the surroundings make of an effect: what is seen, and what reaches the session later. The
timer of a document that is changed again or closed goes on here: it comes back with a ticket that the
document does not have any more, and then the session does nothing. -/
def perform (world : World Result) (now : Nat) :
    Effect → World Result × List (Agenda.When × Input)
  | .fetch id scope =>
    let (time, answer) := world.reply now scope
    (world.note now (.fetch scope), [(time, .settings id answer)])
  | .call id executable arguments contents =>
    let (world, time, ending) := world.call now executable arguments contents
    (world, [(time, .ended id ending)])
  | .publish check diagnostics =>
    (world.note now (.publish check.uri diagnostics check.version), [])
  | .message gravity text => (world.note now (.message gravity text), [])
  | .rest uri ticket => (world, [(.after world.rest, .rested uri ticket)])
  | .queue id => (world, [(.after 0, .turn id)])
  | .done id result => (world.finish now id resultJson result, [])

def performAll (world : World Result) (now : Nat) :
    List Effect → World Result × List (Agenda.When × Input)
  | [] => (world, [])
  | effect :: rest =>
    let (world, planned) := perform world now effect
    let (world, more) := performAll world now rest
    (world, planned ++ more)

/-- A session in its surroundings. -/
structure State where
  session : Session
  world : World Result

/-- A session and its surroundings as a machine. From one input there follow at most those of one
validation for each open document. -/
def machine : Machine State Input where
  handle now state input :=
    let (session, effects) := state.session.step state.world.host input
    let (world, planned) := performAll state.world now effects
    (⟨session, world⟩, planned)
  cost state _ := 4 * state.session.documents.size + 4

/-- A session on its clock. -/
abbrev Trial := Simulation State Input

/-- What can be done with a session and its surroundings. -/
inductive Step
  | request (request : Request)
  /-- Starts an operation and does not wait for it. -/
  | background (request : Request)
  | advance (time : Nat)
  | compiler (script : ScriptedCompiler)
  | editor (script : ScriptedEditor)
  | broken (broken : Bool)
  | pulls (pulls : Bool)
  | general (settings : Settings)

/-- Whether an input continues an operation. -/
def continues (id : OperationId) : Input → Bool
  | .settings other _ => other == id
  | .ended other _ => other == id
  | _ => false

namespace Trial

def mapWorld (trial : Trial) (change : World Result → World Result) : Trial :=
  { trial with state := { trial.state with world := change trial.state.world } }

def mapSession (trial : Trial) (change : Session → Session) : Trial :=
  { trial with state := { trial.state with session := change trial.state.session } }

def await (trial : Trial) (request : Request) : Trial × Option Result :=
  let id := trial.state.session.nextOperation
  let trial := Simulation.feed machine trial (.start request)
  let trial := trial.run machine
    { prefer := continues id, stop := fun state => state.world.finished.contains id }
  (trial, trial.state.world.finished.get? id)

/-- Does a step, without what is due by now. -/
def act (trial : Trial) (number : Nat) : Step → Trial × Option Result
  | .request request => trial.await request
  | .background request =>
    let id := trial.state.session.nextOperation
    let trial := trial.mapWorld fun world =>
      { world with background := world.background.put id number }
    (Simulation.feed machine trial (.start request), none)
  | .advance time => (Simulation.advance machine trial time, none)
  | .compiler script => (trial.mapWorld fun world => { world with compiler := script }, none)
  | .editor script => (trial.mapWorld fun world => { world with editor := script }, none)
  | .broken broken => (trial.mapWorld fun world => { world with broken := broken }, none)
  | .pulls pulls => (trial.mapSession fun session => { session with pulls := pulls }, none)
  | .general settings => (trial.mapSession fun session => { session with general := settings }, none)

/-- Whether documents take part in a step that have no order among themselves. -/
def isUnordered : Step → Bool
  | .advance _ => true
  | .request (.configure _) => true
  | .background (.configure _) => true
  | _ => false

/-- Does a step and then all that is due, and gives the events of the step. -/
def step (trial : Trial) (number : Nat) (step : Step) :
    Trial × Option Result × List (Nat × Event) :=
  let trial := trial.mapWorld fun world => { world with events := [] }
  let (trial, result) := trial.act number step
  let trial := trial.settle machine
  let events := trial.state.world.events
  (trial, result, if isUnordered step then events.mergeSort byKey else events)

end Trial

end LanguageServer.Scenario
