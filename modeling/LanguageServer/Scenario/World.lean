import LanguageServer.Clock.Simulation
import LanguageServer.Scenario.Event
import LanguageServer.Scenario.Script
import LanguageServer.Scratch

/-! What surrounds a session in a scenario. -/

namespace LanguageServer.Scenario

open Session

/-- What a session cannot change. -/
structure Surroundings where
  compiler : Behaviour := ({} : ScriptedCompiler)
  /-- The compiler that settings lead to: the one that they name. -/
  locate : Settings → Option Path := Settings.compiler?
  editor : Editor := ({} : ScriptedEditor)
  /-- How long a document has to be at rest. -/
  rest : Nat := 1000
  /-- Whether files for the compiler cannot be made. -/
  broken : Bool := false

/-- The surroundings, and what was seen so far. What was started comes to results of a type. -/
structure World (ρ : Type) extends Surroundings where
  /-- The numbers of what nobody waits for, with the steps that started it. -/
  background : Table Nat Nat := ∅
  /-- The results of all else. -/
  finished : Table Nat ρ := ∅
  events : List (Nat × Event) := []

namespace World

variable {ρ : Type}

def note (world : World ρ) (now : Nat) (event : Event) : World ρ :=
  { world with events := world.events ++ [(now, event)] }

/-- Notes a result: as an event if nobody waits for it. -/
def finish (world : World ρ) (now number : Nat) (encode : ρ → Json) (result : ρ) : World ρ :=
  match world.background.get? number with
  | some step => world.note now (.done step (encode result))
  | none => { world with finished := world.finished.put number result }

/-- Every operation has a file of its own. -/
def host (world : World ρ) : Host where
  locate := world.locate
  scratch id := if world.broken then none else some (Scratch.filePath id)

/-- When something happens that takes a while. What takes no time happens at once. -/
def afterDelay : Nat → Agenda.When
  | 0 => .atOnce
  | delay => .after delay

/-- A call of the compiler: when it ends and how. -/
def call (world : World ρ) (now : Nat) (executable : Path) (arguments : List String)
    (contents : String) : World ρ × Agenda.When × Compiler.Ending :=
  let (delay, ending) := world.compiler.call now executable arguments contents
  (world.note now (.call executable arguments contents), afterDelay delay, ending)

/-- A request for settings: when the editor answers, and what it has. -/
def reply (world : World ρ) (now : Nat) (scope : Option Uri) : Agenda.When × Option Json :=
  let (delay, answer) := world.editor.settings now scope
  (afterDelay delay, answer)

end World

end LanguageServer.Scenario
