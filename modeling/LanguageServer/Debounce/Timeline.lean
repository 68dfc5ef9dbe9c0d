import LanguageServer.Clock.Simulation
import LanguageServer.Debounce.Register

/-! Debounced tasks on a clock. A task runs when its key has been at rest for the delay. -/

namespace LanguageServer.Debounce

/-- A task: its tag and how long it runs. -/
structure Task where
  tag : Nat
  duration : Nat
  deriving DecidableEq, Repr

/-- What becomes of a task. -/
inductive Event
  /-- A task that takes time has begun. -/
  | started (tag : Nat)
  | finished (tag : Nat)
  deriving DecidableEq, Repr

def Event.kind : Event → String
  | .started _ => "started"
  | .finished _ => "finished"

def Event.tag : Event → Nat
  | .started tag => tag
  | .finished tag => tag

/-- Whether an event can go before another. Events of one time and kind go by the text of their
tags, because keys have no order among themselves. -/
def inOrder (left right : Nat × Event) : Bool :=
  left.1 < right.1 || left.1 == right.1 &&
    (left.2.kind < right.2.kind ||
      left.2.kind == right.2.kind && !(toString right.2.tag < toString left.2.tag))

/-- What a clock can bring about. -/
inductive Happening (κ : Type u)
  /-- The delay of a task is over. -/
  | elapsed (key : κ) (ticket : Nat) (task : Task)
  /-- A running task comes to its end. -/
  | ended (tag : Nat)
  deriving Repr

/-- The ticket of the timer that runs out. A task that has started has none any more. -/
def Happening.ticket? : Happening κ → Option Nat
  | .elapsed _ ticket _ => some ticket
  | .ended _ => none

/-- The register, and the events so far with the times at which they happened. -/
structure State (κ : Type u) where
  delay : Nat
  register : Register κ := {}
  events : List (Nat × Event) := []

/-- What can be asked of the register. -/
inductive Action (κ : Type u)
  | schedule (key : κ) (task : Task)
  | cancel (key : κ)
  | cancelAll
  | advance (time : Nat)
  deriving Repr

variable {κ : Type u} [DecidableEq κ]

omit [DecidableEq κ] in
def State.note (state : State κ) (now : Nat) (event : Event) : State κ :=
  { state with events := state.events ++ [(now, event)] }

/-- What happens when a delay is over or a task ends. -/
def machine : Machine (State κ) (Happening κ) where
  handle now state
    | .elapsed key ticket task =>
      match state.register.claim? key ticket with
      | none => (state, [])
      | some register =>
        let state := { state with register := register }
        if task.duration = 0 then (state.note now (.finished task.tag), [])
        else (state.note now (.started task.tag), [(.after task.duration, .ended task.tag)])
    | .ended tag => (state.note now (.finished tag), [])
  cost _
    | .elapsed .. => 2
    | .ended _ => 1

/-- The tasks of a register on their clock. -/
abbrev Timeline (κ : Type u) := Simulation (State κ) (Happening κ)

namespace Timeline

omit [DecidableEq κ] in
def start (delay : Nat) : Timeline κ :=
  { state := { delay := delay } }

omit [DecidableEq κ] in
def abort (timeline : Timeline κ) (tickets : List Nat) : Timeline κ :=
  { timeline with agenda := timeline.agenda.strike fun happening =>
      happening.ticket?.any tickets.contains }

/-- Does as asked, without what is due by now. A task that is replaced or cancelled loses its timer.
A cancellation tells whether it prevented a task. -/
def act (timeline : Timeline κ) : Action κ → Timeline κ × Option Bool
  | .schedule key task =>
    let replaced := timeline.state.register.pending.get? key
    let (register, ticket) := timeline.state.register.schedule key
    -- The old timer is stopped last, when its ticket is out of the register.
    let agenda := timeline.agenda.plan (.after timeline.state.delay, .elapsed key ticket task)
    (abort ⟨{ timeline.state with register := register }, agenda⟩ replaced.toList, none)
  | .cancel key =>
    let dropped := timeline.state.register.pending.get? key
    let (register, pending) := timeline.state.register.cancel key
    (abort { timeline with state := { timeline.state with register := register } } dropped.toList,
      some pending)
  | .cancelAll =>
    let register := timeline.state.register.cancelAll
    (abort { timeline with state := { timeline.state with register := register } }
      timeline.state.register.tickets, none)
  | .advance time => (Simulation.advance machine timeline time, none)

/-- Does as asked, and then all that is due. -/
def step (timeline : Timeline κ) (action : Action κ) : Timeline κ × Option Bool :=
  let (timeline, answer) := timeline.act action
  (Simulation.settle machine timeline, answer)

def run (timeline : Timeline κ) (actions : List (Action κ)) : Timeline κ :=
  actions.foldl (fun timeline action => (timeline.step action).1) timeline

end Timeline

end LanguageServer.Debounce
