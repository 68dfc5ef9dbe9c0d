import LanguageServer.Clock.Simulation

/-! Runs of a machine on its clock. A run takes one input after another in the order in which they
are due, and ends when no input is due that it may take. -/

namespace LanguageServer

namespace Agenda

variable {ι : Type u}

/-- The entries stand in the order in which they are due, and none is due in the past. -/
structure Ordered (agenda : Agenda ι) : Prop where
  sorted : agenda.entries.Pairwise (·.1 ≤ ·.1)
  ahead : ∀ entry ∈ agenda.entries, agenda.now ≤ entry.1

theorem insert_perm (due : Nat) (item : ι) (entries : List (Nat × ι)) :
    (insert due item entries).Perm ((due, item) :: entries) := by
  induction entries with
  | nil => exact .refl _
  | cons head rest ih =>
    obtain ⟨other, first⟩ := head
    simp only [insert]
    split
    · exact (ih.cons _).trans (.swap ..)
    · exact .refl _

theorem mem_insert {due : Nat} {item : ι} {entries : List (Nat × ι)} {entry : Nat × ι} :
    entry ∈ insert due item entries ↔ entry = (due, item) ∨ entry ∈ entries :=
  (insert_perm due item entries).mem_iff.trans List.mem_cons

theorem insert_sorted (due : Nat) (item : ι) {entries : List (Nat × ι)}
    (sorted : entries.Pairwise (·.1 ≤ ·.1)) : (insert due item entries).Pairwise (·.1 ≤ ·.1) := by
  induction entries with
  | nil => exact List.pairwise_singleton ..
  | cons head rest ih =>
    obtain ⟨other, first⟩ := head
    obtain ⟨least, tail⟩ := List.pairwise_cons.mp sorted
    simp only [insert]
    split
    · rename_i before
      refine List.pairwise_cons.mpr ⟨?_, ih tail⟩
      intro entry member
      rcases mem_insert.mp member with rfl | member
      · exact before
      · exact least entry member
    · rename_i behind
      refine List.pairwise_cons.mpr ⟨?_, sorted⟩
      intro entry member
      rcases List.mem_cons.mp member with rfl | member
      · exact Nat.le_of_not_le behind
      · exact Nat.le_trans (Nat.le_of_not_le behind) (least entry member)

/-- Entries that come to nothing can be struck out. -/
theorem flatMap_strike (agenda : Agenda ι) (test : ι → Bool) (outcome : Nat × ι → List α)
    (nothing : ∀ entry ∈ agenda.entries, test entry.2 = true → outcome entry = []) :
    (agenda.strike test).entries.flatMap outcome = agenda.entries.flatMap outcome := by
  obtain ⟨now, entries⟩ := agenda
  simp only [strike] at nothing ⊢
  induction entries with
  | nil => rfl
  | cons head rest ih =>
    have others := ih fun entry member => nothing entry (List.mem_cons_of_mem _ member)
    cases struck : test head.2 with
    | true => simp [struck, others, nothing head (List.mem_cons_self ..) struck]
    | false => simp [struck, others]

theorem extract_none (entries : List α) : extract (fun _ => false) entries = none := by
  induction entries with
  | nil => rfl
  | cons head rest ih => simp [extract, ih]

theorem next?_first (allowed : Nat → Bool) (agenda : Agenda ι) :
    agenda.next? (fun _ => false) allowed =
      match agenda.entries with
      | [] => none
      | (due, first) :: rest =>
        if allowed due then some (first, ⟨max agenda.now due, rest⟩) else none := by
  obtain ⟨now, entries⟩ := agenda
  cases entries with
  | nil => rfl
  | cons head rest => simp only [next?, Bool.and_false, extract_none]

namespace Ordered

variable {agenda : Agenda ι}

theorem plan (ordered : agenda.Ordered) (delay : Nat) (item : ι) :
    (agenda.plan (.after delay, item)).Ordered := by
  refine ⟨insert_sorted _ item ordered.sorted, ?_⟩
  intro entry member
  rcases mem_insert.mp member with rfl | member
  · exact Nat.le_add_right ..
  · exact ordered.ahead entry member

theorem strike (ordered : agenda.Ordered) (test : ι → Bool) : (agenda.strike test).Ordered :=
  ⟨ordered.sorted.filter _, fun entry member =>
    ordered.ahead entry (List.mem_filter.mp member).1⟩

theorem first {due : Nat} {first : ι} {rest : List (Nat × ι)} (ordered : agenda.Ordered)
    (entries : agenda.entries = (due, first) :: rest) : agenda.now ≤ due :=
  ordered.ahead (due, first) (entries ▸ List.mem_cons_self ..)

theorem rest {due : Nat} {first : ι} {rest : List (Nat × ι)} (ordered : agenda.Ordered)
    (entries : agenda.entries = (due, first) :: rest) : Ordered ⟨due, rest⟩ := by
  have sorted := ordered.sorted
  rw [entries] at sorted
  obtain ⟨least, tail⟩ := List.pairwise_cons.mp sorted
  exact ⟨tail, least⟩

end Ordered

end Agenda

namespace Simulation

variable {σ : Type u} {ι : Type v} (machine : Machine σ ι) (course : Course σ ι)

/-- The simulation after the next input of a run, unless the run is at its end. -/
def tick? (simulation : Simulation σ ι) : Option (Simulation σ ι) :=
  if course.stop simulation.state then none
  else
    (simulation.agenda.next? course.prefer course.allows).map fun (input, agenda) =>
      feed machine { simulation with agenda := agenda } input

theorem runFor_succ (fuel : Nat) (simulation : Simulation σ ι) :
    runFor machine course (fuel + 1) simulation =
      match simulation.tick? machine course with
      | none => simulation
      | some next => runFor machine course fuel next := by
  simp only [runFor, tick?]
  split
  · rfl
  · cases simulation.agenda.next? course.prefer course.allows <;> rfl

variable {machine course}

theorem tick?_eq_some {simulation after : Simulation σ ι} {last : Nat}
    (ticks : simulation.tick? machine { limit := some last } = some after) :
    ∃ due input rest, simulation.agenda.entries = (due, input) :: rest ∧ due ≤ last ∧
      after = feed machine ⟨simulation.state, ⟨max simulation.agenda.now due, rest⟩⟩ input := by
  simp only [tick?, Agenda.next?_first, Bool.false_eq_true, if_false, Course.allows,
    decide_eq_true_eq] at ticks
  split at ticks
  · cases ticks
  · rename_i due input rest entries
    split at ticks
    · rename_i allowed
      exact ⟨due, input, rest, entries, allowed, (Option.some.inj ticks).symm⟩
    · cases ticks

/-- A run up to a time is at its end when all inputs are due later. -/
theorem later_of_tick?_eq_none {simulation : Simulation σ ι} {last : Nat}
    (ordered : simulation.agenda.Ordered)
    (ends : simulation.tick? machine { limit := some last } = none) :
    ∀ entry ∈ simulation.agenda.entries, last < entry.1 := by
  simp only [tick?, Agenda.next?_first, Bool.false_eq_true, if_false, Course.allows,
    decide_eq_true_eq] at ends
  have sorted := ordered.sorted
  split at ends
  · rename_i none
    rw [none]
    exact fun _ member => nomatch member
  · rename_i due input rest entries
    rw [entries] at sorted ⊢
    obtain ⟨least, -⟩ := List.pairwise_cons.mp sorted
    split at ends
    · cases ends
    · rename_i late
      intro entry member
      rcases List.mem_cons.mp member with rfl | member
      · exact Nat.lt_of_not_le late
      · exact Nat.lt_of_lt_of_le (Nat.lt_of_not_le late) (least entry member)

theorem load_plan (state : σ) (agenda : Agenda ι) (delay : Nat) (input : ι) :
    load machine ⟨state, agenda.plan (.after delay, input)⟩ =
      machine.cost state input + load machine ⟨state, agenda⟩ := by
  obtain ⟨now, entries⟩ := agenda
  simp only [load, Agenda.plan]
  induction entries with
  | nil => rfl
  | cons head rest ih =>
    simp only [Agenda.insert]
    split
    · simp only [List.foldr_cons, ih]
      exact Nat.add_left_comm ..
    · rfl

/-- What each input keeps, a run keeps. -/
theorem runFor_induction {motive : Simulation σ ι → Prop}
    (next : ∀ before after, motive before → before.tick? machine course = some after → motive after)
    (fuel : Nat) (simulation : Simulation σ ι) (start : motive simulation) :
    motive (runFor machine course fuel simulation) := by
  induction fuel generalizing simulation with
  | zero => exact start
  | succ fuel ih =>
    rw [runFor_succ]
    split
    · exact start
    · rename_i after ticks
      exact ih after (next simulation after start ticks)

/-- A run comes to its end if each input lessens the number of those that can follow. -/
theorem runFor_ends {motive : Simulation σ ι → Prop}
    (next : ∀ before after, motive before → before.tick? machine course = some after →
      motive after ∧ after.load machine < before.load machine)
    (fuel : Nat) (simulation : Simulation σ ι) (start : motive simulation)
    (enough : simulation.load machine ≤ fuel) :
    (runFor machine course fuel simulation).tick? machine course = none := by
  induction fuel generalizing simulation with
  | zero =>
    cases ticks : simulation.tick? machine course with
    | none => exact ticks
    | some after =>
      obtain ⟨-, less⟩ := next simulation after start ticks
      omega
  | succ fuel ih =>
    rw [runFor_succ]
    split
    · assumption
    · rename_i after ticks
      obtain ⟨kept, less⟩ := next simulation after start ticks
      exact ih after kept (by omega)

end Simulation

end LanguageServer
