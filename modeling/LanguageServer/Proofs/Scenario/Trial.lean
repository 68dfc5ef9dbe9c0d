import LanguageServer.Proofs.Clock.Record
import LanguageServer.Proofs.Session.Configuration
import LanguageServer.Proofs.Session.Provenance
import LanguageServer.Scenario.Session

/-! Timed runs of a session. Requests reach it at given times, and nobody waits for their results; all
else follows from the clock and the surroundings. -/

namespace LanguageServer

/-! ### What is seen of a document -/

namespace Session

/-- What can be seen of the validations of a document. -/
inductive Sight
  /-- The compiler was called to check a text, perhaps because the document had been at rest. -/
  | called (atRest : Bool) (executable : Path) (contents : String)
  | shown (diagnostics : List Diagnostic) (version : Int)
  deriving DecidableEq

/-- What an effect lets be seen of a document, given the operations that are then under way. -/
def Effect.sight? (uri : Uri) (after : Session) : Effect → Option Sight
  | .call id executable _ contents =>
    match after.standing? id with
    | some (.checking check) =>
      if check.uri = uri then some (.called (check.cause = .rest) executable contents) else none
    | _ => none
  | .publish check diagnostics =>
    if check.uri = uri then some (.shown diagnostics check.version) else none
  | _ => none

def Moment.sights (uri : Uri) (moment : Moment) : List Sight :=
  moment.effects.filterMap (Effect.sight? uri moment.after)

end Session

namespace Scenario

open Session

/-! ### Timed runs -/

/-- A step of a timed run. -/
inductive Move
  | start (request : Request)
  /-- So much time passes. -/
  | pass (time : Nat)

/-- Requests are started, and nobody waits for them. -/
def Move.step : Move → Step
  | .start request => .background request
  | .pass time => .advance time

/-- The moment at which an input reaches the session. -/
def State.moment (state : State) (input : Input) : Moment :=
  ⟨state.session, .input state.world.host input⟩

namespace Trial

def start (world : World Result) (general : Settings) : Trial :=
  { state := ⟨fresh general, world⟩ }

/-- The inputs that a trial takes up to a time. -/
def takenUntil (trial : Trial) (last : Nat) : List (Nat × State × Input) :=
  trial.taken machine { limit := some last } (trial.load machine)

/-- The inputs that the session gets in a move, with their times, without what is due after it. -/
def inputs (trial : Trial) : Move → List (Nat × State × Input)
  | .start request => [(trial.now, trial.state, .start request)]
  | .pass time => trial.takenUntil (trial.now + time)

def moments (inputs : List (Nat × State × Input)) : List (Nat × Moment) :=
  inputs.map fun (time, state, input) => (time, state.moment input)

/-- The moments of a timed run, with their times. Each move is made with all that is then due. -/
def journal (trial : Trial) (number : Nat) : List Move → List (Nat × Moment)
  | [] => []
  | move :: moves =>
    let trial := trial.mapWorld fun world => { world with events := [] }
    let acted := (trial.act number move.step).1
    moments (trial.inputs move ++ acted.takenUntil acted.now) ++
      (trial.step number move.step).1.journal (number + 1) moves

/-- What is seen of a document in moments, with their times. -/
def seen (uri : Uri) (moments : List (Nat × Moment)) : List (Nat × Sight) :=
  moments.flatMap fun (time, moment) => (moment.sights uri).map (time, ·)

/-- What is seen of a document in a timed run, with the times. -/
def sightings (uri : Uri) (trial : Trial) (moves : List Move) : List (Nat × Sight) :=
  seen uri (trial.journal 0 moves)

end Trial

/-! ### What follows from an effect -/

/-- What reaches the session because of an effect, and when. -/
def follows (surroundings : Surroundings) (now : Nat) : Effect → List (Agenda.When × Input)
  | .fetch id scope =>
    let (delay, answer) := surroundings.editor.settings now scope
    [(World.afterDelay delay, .settings id answer)]
  | .call id executable arguments contents =>
    let (delay, ending) := surroundings.compiler.call now executable arguments contents
    [(World.afterDelay delay, .ended id ending)]
  | .rest uri ticket => [(.after surroundings.rest, .rested uri ticket)]
  | .queue id => [(.after 0, .turn id)]
  | _ => []

theorem perform_surroundings (world : World Result) (now : Nat) (effect : Effect) :
    (perform world now effect).1.toSurroundings = world.toSurroundings := by
  cases effect with
  | done id result =>
    simp only [perform, World.finish]
    split <;> rfl
  | _ => rfl

theorem perform_follows (world : World Result) (now : Nat) (effect : Effect) :
    (perform world now effect).2 = follows world.toSurroundings now effect := by
  cases effect <;> rfl

/-- What is seen does not change the surroundings, so each effect has the same consequences as
alone. -/
theorem performAll_eq (world : World Result) (now : Nat) (effects : List Effect) :
    (performAll world now effects).1.toSurroundings = world.toSurroundings ∧
      (performAll world now effects).2 =
        effects.flatMap (follows world.toSurroundings now) := by
  induction effects generalizing world with
  | nil => exact ⟨rfl, rfl⟩
  | cons effect rest ih =>
    obtain ⟨same, planned⟩ := ih (perform world now effect).1
    rw [perform_surroundings] at same planned
    exact ⟨same, by rw [List.flatMap_cons, ← perform_follows, ← planned]; rfl⟩

namespace Trial

theorem feed_session (trial : Trial) (input : Input) :
    (Simulation.feed machine trial input).state.session = (trial.state.moment input).after := rfl

theorem feed_surroundings (trial : Trial) (input : Input) :
    (Simulation.feed machine trial input).state.world.toSurroundings =
      trial.state.world.toSurroundings :=
  (performAll_eq ..).1

/-- What follows from an input. -/
def following (trial : Trial) (input : Input) : List (Agenda.When × Input) :=
  (trial.state.moment input).effects.flatMap (follows trial.state.world.toSurroundings trial.now)

theorem feed_agenda (trial : Trial) (input : Input) :
    (Simulation.feed machine trial input).agenda = trial.agenda.planAll (trial.following input) :=
  congrArg trial.agenda.planAll (performAll_eq ..).2

end Trial

end Scenario

end LanguageServer
