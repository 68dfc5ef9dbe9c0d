import LanguageServer.Clock.Agenda

/-! Running a machine against a clock. -/

namespace LanguageServer

/-- A machine whose inputs come at times that it plans itself. -/
structure Machine (σ : Type u) (ι : Type v) where
  /-- What an input does at a time: the next state, and the inputs that follow from it. -/
  handle : Nat → σ → ι → σ × List (Agenda.When × ι)
  /-- How many inputs can follow from one, itself included. -/
  cost : σ → ι → Nat

/-- A machine's state beside the inputs that are to come. -/
structure Simulation (σ : Type u) (ι : Type v) where
  state : σ
  agenda : Agenda ι := {}

namespace Simulation

variable {σ : Type u} {ι : Type v}

def now (simulation : Simulation σ ι) : Nat :=
  simulation.agenda.now

def feed (machine : Machine σ ι) (simulation : Simulation σ ι) (input : ι) : Simulation σ ι :=
  let (state, planned) := machine.handle simulation.now simulation.state input
  ⟨state, simulation.agenda.planAll planned⟩

/-- How a run chooses its inputs and where it ends. -/
structure Course (σ : Type u) (ι : Type v) where
  /-- Inputs that go before others of the same time. -/
  prefer : ι → Bool := fun _ => false
  /-- The last time at which the run still takes inputs, if there is one. -/
  limit : Option Nat := none
  /-- States in which the run ends. -/
  stop : σ → Bool := fun _ => false

def Course.allows (course : Course σ ι) (due : Nat) : Bool :=
  match course.limit with
  | some last => due ≤ last
  | none => true

/-- At most so many inputs in a row. -/
def runFor (machine : Machine σ ι) (course : Course σ ι) : Nat → Simulation σ ι → Simulation σ ι
  | 0, simulation => simulation
  | fuel + 1, simulation =>
    if course.stop simulation.state then simulation
    else
      match simulation.agenda.next? course.prefer course.allows with
      | none => simulation
      | some (input, agenda) =>
        runFor machine course fuel (feed machine { simulation with agenda := agenda } input)

/-- How many inputs can follow from all that are planned. -/
def load (machine : Machine σ ι) (simulation : Simulation σ ι) : Nat :=
  simulation.agenda.entries.foldr (fun entry sum => machine.cost simulation.state entry.2 + sum) 0

def run (machine : Machine σ ι) (course : Course σ ι) (simulation : Simulation σ ι) :
    Simulation σ ι :=
  runFor machine course (simulation.load machine) simulation

/-- Takes all inputs that are due by now. -/
def settle (machine : Machine σ ι) (simulation : Simulation σ ι) : Simulation σ ι :=
  simulation.run machine { limit := some simulation.now }

def advance (machine : Machine σ ι) (simulation : Simulation σ ι) (time : Nat) : Simulation σ ι :=
  let last := simulation.now + time
  let simulation := simulation.run machine { limit := some last }
  { simulation with agenda := simulation.agenda.wait last }

end Simulation

end LanguageServer
