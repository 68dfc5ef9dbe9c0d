import LanguageServer.Proofs.Clock.Course

/-! What a run takes from its agenda, and what remains of an agenda if only some of its entries are
looked at. -/

namespace LanguageServer

namespace Agenda

variable {ι : Type u} {κ : Type v}

/-! ### Planning -/

/-- When something is due that is planned now. -/
def When.due (now : Nat) : When → Nat
  | .atOnce => now
  | .after delay => now + delay

theorem plan_perm (agenda : Agenda ι) (time : When) (item : ι) :
    (agenda.plan (time, item)).entries.Perm ((time.due agenda.now, item) :: agenda.entries) := by
  cases time with
  | atOnce => exact .refl _
  | after delay => exact insert_perm ..

theorem planAll_cons (agenda : Agenda ι) (item : When × ι) (items : List (When × ι)) :
    agenda.planAll (item :: items) = (agenda.plan item).planAll items := rfl

@[simp]
theorem now_plan (agenda : Agenda ι) (item : When × ι) : (agenda.plan item).now = agenda.now := by
  obtain ⟨time, item⟩ := item
  cases time <;> rfl

@[simp]
theorem now_planAll (agenda : Agenda ι) (items : List (When × ι)) :
    (agenda.planAll items).now = agenda.now := by
  induction items generalizing agenda with
  | nil => rfl
  | cons item items ih => rw [planAll_cons, ih, now_plan]

theorem planAll_perm (agenda : Agenda ι) (items : List (When × ι)) :
    (agenda.planAll items).entries.Perm
      (items.map (fun item => (item.1.due agenda.now, item.2)) ++ agenda.entries) := by
  induction items generalizing agenda with
  | nil => exact .refl _
  | cons item items ih =>
    obtain ⟨time, item⟩ := item
    have further := ih (agenda.plan (time, item))
    rw [now_plan] at further
    rw [planAll_cons]
    refine further.trans ?_
    refine ((plan_perm agenda time item).append_left _).trans ?_
    exact List.perm_middle

namespace Ordered

variable {agenda : Agenda ι}

theorem planAny (ordered : agenda.Ordered) (item : When × ι) : (agenda.plan item).Ordered := by
  obtain ⟨time, item⟩ := item
  cases time with
  | after delay => exact ordered.plan delay item
  | atOnce =>
    refine ⟨List.pairwise_cons.mpr ⟨ordered.ahead, ordered.sorted⟩, ?_⟩
    intro entry member
    rcases List.mem_cons.mp member with rfl | member
    · exact Nat.le_refl _
    · exact ordered.ahead entry member

/-- Everything is due after a time, or the first entry is due by then. -/
theorem later_or_due (ordered : agenda.Ordered) (last : Nat) :
    (∀ entry ∈ agenda.entries, last < entry.1) ∨
      ∃ due item rest, agenda.entries = (due, item) :: rest ∧ due ≤ last := by
  have sorted := ordered.sorted
  cases entries : agenda.entries with
  | nil => exact .inl nofun
  | cons head rest =>
    obtain ⟨due, item⟩ := head
    rw [entries] at sorted
    obtain ⟨least, -⟩ := List.pairwise_cons.mp sorted
    by_cases reached : due ≤ last
    · exact .inr ⟨due, item, rest, rfl, reached⟩
    · left
      intro entry member
      rcases List.mem_cons.mp member with rfl | member
      · exact Nat.lt_of_not_le reached
      · exact Nat.lt_of_lt_of_le (Nat.lt_of_not_le reached) (least entry member)

theorem planAll (ordered : agenda.Ordered) (items : List (When × ι)) :
    (agenda.planAll items).Ordered := by
  induction items generalizing agenda with
  | nil => exact ordered
  | cons item items ih => exact ih (ordered.planAny item)

end Ordered

/-! ### Preferences -/

theorem extract_eq_some {test : α → Bool} {entries others : List α} {found : α}
    (extracted : extract test entries = some (found, others)) :
    test found = true ∧ entries.Perm (found :: others) ∧ others.Sublist entries := by
  induction entries generalizing others with
  | nil => cases extracted
  | cons head rest ih =>
    simp only [extract] at extracted
    split at extracted
    · rename_i passes
      obtain ⟨rfl, rfl⟩ := Prod.mk.inj (Option.some.inj extracted)
      exact ⟨passes, .refl _, List.sublist_cons_self ..⟩
    · obtain ⟨⟨other, left⟩, further, same⟩ := Option.map_eq_some_iff.mp extracted
      obtain ⟨rfl, rfl⟩ := Prod.mk.inj same
      obtain ⟨passes, same, shorter⟩ := ih further
      exact ⟨passes, (same.cons _).trans (.swap ..), shorter.cons_cons _⟩

/-- Whatever is preferred, what comes next is due first. -/
theorem Ordered.takes {agenda : Agenda ι} (ordered : agenda.Ordered) (prefer : ι → Bool)
    {allowed : Nat → Bool} (free : ∀ due, allowed due = true) (left : agenda.entries ≠ []) :
    ∃ due item rest, agenda.next? prefer allowed = some (item, ⟨due, rest⟩) ∧
      agenda.entries.Perm ((due, item) :: rest) ∧ Ordered ⟨due, rest⟩ := by
  obtain ⟨now, entries⟩ := agenda
  cases entries with
  | nil => exact absurd rfl left
  | cons head rest =>
    obtain ⟨due, first⟩ := head
    have clock : max now due = due := Nat.max_eq_right (ordered.first rfl)
    simp only [next?, free, if_true, clock]
    split
    · rename_i other found others extracted
      obtain ⟨passes, same, shorter⟩ := extract_eq_some extracted
      obtain ⟨rfl, -⟩ : other = due ∧ prefer found = true := by simpa using passes
      refine ⟨other, found, others, rfl, same, ordered.sorted.sublist shorter, ?_⟩
      intro entry member
      rcases List.mem_cons.mp (shorter.mem member) with rfl | later
      · exact Nat.le_refl _
      · exact (List.pairwise_cons.mp ordered.sorted).1 entry later
    · exact ⟨due, first, rest, rfl, .refl _, ordered.rest rfl⟩

/-! ### Some of the entries -/

/-- What a function makes of the entries, at the same times. -/
def selected (pick : ι → Option κ) (entries : List (Nat × ι)) : List (Nat × κ) :=
  entries.filterMap fun entry => (pick entry.2).map (entry.1, ·)

variable (pick : ι → Option κ)

@[simp]
theorem selected_nil : selected pick [] = [] := rfl

theorem selected_cons (due : Nat) (item : ι) (entries : List (Nat × ι)) :
    selected pick ((due, item) :: entries) =
      ((pick item).map (due, ·)).toList ++ selected pick entries := by
  cases found : pick item <;> simp [selected, found]

theorem selected_filter {less : ι → Option κ} {keep : κ → Bool} {entries : List (Nat × ι)}
    (each : ∀ entry ∈ entries, less entry.2 = (pick entry.2).filter keep) :
    selected less entries = (selected pick entries).filter fun entry => keep entry.2 := by
  induction entries with
  | nil => rfl
  | cons head rest ih =>
    obtain ⟨due, item⟩ := head
    have others := ih fun entry member => each entry (List.mem_cons_of_mem _ member)
    have first := each (due, item) (List.mem_cons_self ..)
    rw [selected_cons, selected_cons, List.filter_append, others, first]
    congr 1
    cases pick item with
    | none => rfl
    | some made => cases kept : keep made <;> simp [Option.filter, kept]

theorem due_of_mem_selected {entries : List (Nat × ι)} {entry : Nat × κ}
    (member : entry ∈ selected pick entries) : ∃ item, (entry.1, item) ∈ entries := by
  obtain ⟨⟨due, item⟩, inside, found⟩ := List.mem_filterMap.mp member
  obtain ⟨other, -, rfl⟩ := Option.map_eq_some_iff.mp found
  exact ⟨item, inside⟩

/-- An entry that is planned has its place also among the selected ones. -/
theorem selected_insert (due : Nat) (item : ι) {entries : List (Nat × ι)}
    (sorted : entries.Pairwise (·.1 ≤ ·.1)) :
    selected pick (insert due item entries) =
      match pick item with
      | some found => insert due found (selected pick entries)
      | none => selected pick entries := by
  induction entries with
  | nil => cases found : pick item <;> simp [selected, insert, found]
  | cons head rest ih =>
    obtain ⟨other, first⟩ := head
    obtain ⟨least, tail⟩ := List.pairwise_cons.mp sorted
    by_cases before : other ≤ due
    · simp only [insert, before, if_true]
      rw [selected_cons, selected_cons, ih tail]
      cases pick item with
      | none => rfl
      | some found =>
        cases pick first with
        | none => rfl
        | some made => simp [insert, before]
    · simp only [insert, before, if_false]
      rw [selected_cons]
      cases pick item with
      | none => rfl
      | some found =>
        -- everything that is left is due later
        have later : ∀ entry ∈ selected pick ((other, first) :: rest), due < entry.1 := by
          intro entry member
          obtain ⟨item, inside⟩ := due_of_mem_selected pick member
          have behind : other ≤ entry.1 := by
            rcases List.mem_cons.mp inside with same | inside
            · exact Nat.le_of_eq (congrArg Prod.fst same).symm
            · exact least _ inside
          omega
        cases all : selected pick ((other, first) :: rest) with
        | nil => rfl
        | cons next others =>
          have late := later next (all ▸ List.mem_cons_self ..)
          simp [insert, Nat.not_le_of_lt late]

theorem selected_plan {agenda : Agenda ι} (ordered : agenda.Ordered) (item : When × ι) :
    selected pick (agenda.plan item).entries =
      match pick item.2 with
      | some found => (plan ⟨agenda.now, selected pick agenda.entries⟩ (item.1, found)).entries
      | none => selected pick agenda.entries := by
  obtain ⟨time, item⟩ := item
  cases time with
  | after delay =>
    rw [plan, selected_insert pick _ item ordered.sorted]
    cases pick item <;> rfl
  | atOnce =>
    rw [plan, selected_cons]
    cases pick item <;> rfl

theorem selected_planAll {agenda : Agenda ι} (ordered : agenda.Ordered) (items : List (When × ι)) :
    selected pick (agenda.planAll items).entries =
      (planAll ⟨agenda.now, selected pick agenda.entries⟩
        (items.filterMap fun item => (pick item.2).map (item.1, ·))).entries := by
  induction items generalizing agenda with
  | nil => rfl
  | cons item items ih =>
    rw [planAll_cons, ih (ordered.planAny item), selected_plan pick ordered, now_plan]
    cases found : pick item.2 with
    | none => simp [found]
    | some made =>
      simp only [List.filterMap_cons, found, Option.map_some, planAll_cons]
      congr 2
      cases time : item.1 <;> rfl

end Agenda

namespace Simulation

variable {σ : Type u} {ι : Type v} (machine : Machine σ ι) (course : Course σ ι)

/-- The inputs that a run takes, each with its time and the state that it finds. -/
def taken : Nat → Simulation σ ι → List (Nat × σ × ι)
  | 0, _ => []
  | fuel + 1, simulation =>
    if course.stop simulation.state then []
    else
      match simulation.agenda.next? course.prefer course.allows with
      | none => []
      | some (input, agenda) =>
        (agenda.now, simulation.state, input) ::
          taken fuel (feed machine { simulation with agenda := agenda } input)

variable {machine course}

/-- A run is at its end as soon as no input is due by its last time. -/
theorem taken_of_later {simulation : Simulation σ ι} {last : Nat}
    (later : ∀ entry ∈ simulation.agenda.entries, last < entry.1) (fuel : Nat) :
    taken machine { limit := some last } fuel simulation = [] ∧
      runFor machine { limit := some last } fuel simulation = simulation := by
  cases fuel with
  | zero => exact ⟨rfl, rfl⟩
  | succ fuel =>
    have none : simulation.agenda.next? (fun _ => false)
        (Course.allows { limit := some last } (σ := σ) (ι := ι)) = none := by
      rw [Agenda.next?_first]
      split
      · rfl
      · rename_i due first rest entries
        have late := later (due, first) (entries ▸ List.mem_cons_self ..)
        simp [Course.allows, Nat.not_le_of_lt late]
    simp [taken, runFor, none]

theorem taken_of_due {simulation : Simulation σ ι} {last due : Nat} {input : ι}
    {rest : List (Nat × ι)} (entries : simulation.agenda.entries = (due, input) :: rest)
    (reached : due ≤ last) (fuel : Nat) :
    let next := feed machine ⟨simulation.state, ⟨max simulation.agenda.now due, rest⟩⟩ input
    taken machine { limit := some last } (fuel + 1) simulation =
        (max simulation.agenda.now due, simulation.state, input) ::
          taken machine { limit := some last } fuel next ∧
      runFor machine { limit := some last } (fuel + 1) simulation =
        runFor machine { limit := some last } fuel next := by
  have some : simulation.agenda.next? (fun _ => false)
      (Course.allows { limit := some last } (σ := σ) (ι := ι)) =
        some (input, ⟨max simulation.agenda.now due, rest⟩) := by
    rw [Agenda.next?_first, entries]
    simp [Course.allows, reached]
  simp [taken, runFor, some]

theorem taken_of_stop {simulation : Simulation σ ι} (stops : course.stop simulation.state = true)
    (fuel : Nat) :
    taken machine course fuel simulation = [] ∧ runFor machine course fuel simulation = simulation := by
  cases fuel with
  | zero => exact ⟨rfl, rfl⟩
  | succ fuel => simp [taken, runFor, stops]

theorem taken_of_next {simulation : Simulation σ ι} {input : ι} {agenda : Agenda ι}
    (goes : course.stop simulation.state = false)
    (next : simulation.agenda.next? course.prefer course.allows = some (input, agenda)) (fuel : Nat) :
    taken machine course (fuel + 1) simulation =
        (agenda.now, simulation.state, input) ::
          taken machine course fuel (feed machine ⟨simulation.state, agenda⟩ input) ∧
      runFor machine course (fuel + 1) simulation =
        runFor machine course fuel (feed machine ⟨simulation.state, agenda⟩ input) := by
  simp [taken, runFor, goes, next]

end Simulation

end LanguageServer
