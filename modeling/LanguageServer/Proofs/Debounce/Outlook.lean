import LanguageServer.Proofs.Clock.Course
import LanguageServer.Proofs.Debounce.Booking
import Mathlib.Data.List.Basic
import Mathlib.Data.List.Pairwise

/-! What is still to come on a timeline. The events so far, together with what is to come if certain
actions follow, stay the same while the clock moves and while these actions are done. -/

namespace LanguageServer.Debounce

/-- What becomes of a task, as far as it is known when the clock stops. -/
inductive Item (κ : Type u)
  | event (time : Nat) (event : Event)
  /-- A task waits for the end of its delay. -/
  | waiting (key : κ) (due : Nat) (task : Task)
  /-- A task runs, and ends at a time. -/
  | running (due tag : Nat)

variable {κ : Type u}

/-- The end of a task that runs, if the clock gets as far as a time. -/
def ending (tag due last : Nat) : Item κ :=
  if due ≤ last then .event due (.finished tag) else .running due tag

/-- What becomes of a task that starts, if the clock gets as far as a time. -/
def Task.course (task : Task) (start last : Nat) : List (Item κ) :=
  if task.duration = 0 then [.event start (.finished task.tag)]
  else [.event start (.started task.tag), ending task.tag (start + task.duration) last]

def Item.event? : Item κ → Option (Nat × Event)
  | .event time happened => some (time, happened)
  | _ => none

variable [DecidableEq κ]

def Item.waiting? (key : κ) : Item κ → Option (Nat × Task)
  | .waiting other due task => if other = key then some (due, task) else none
  | _ => none

/-- What becomes of a task that is due at a time, when actions follow. -/
def outlook (key : κ) (task : Task) (due clock : Nat) (rest : List (Action κ)) : List (Item κ) :=
  if undisturbed key (due - clock) rest then
    if due ≤ clock + elapsed rest then task.course due (clock + elapsed rest)
    else [.waiting key due task]
  else []

/-- What becomes of a task that is scheduled. -/
def Booking.items (delay : Nat) (booking : Booking κ) : List (Item κ) :=
  outlook booking.key booking.task (booking.time + delay) booking.time booking.later

/-- An action prevents a task of its key that is not due yet, and moves the clock for all others. -/
theorem outlook_cons (key : κ) (task : Task) (due clock : Nat) (action : Action κ)
    (rest : List (Action κ)) :
    outlook key task due clock (action :: rest) =
      if clock < due ∧ action.touches key = true then []
      else outlook key task due (clock + action.time) rest := by
  unfold outlook
  rw [elapsed_cons, ← Nat.add_assoc, undisturbed, Nat.sub_sub]
  by_cases reached : due ≤ clock
  · have none : due - clock = 0 := Nat.sub_eq_zero_of_le reached
    have still : due - (clock + action.time) = 0 := by omega
    simp [none, still, Nat.not_lt_of_le reached]
  · have some : due - clock ≠ 0 := Nat.sub_ne_zero_of_lt (Nat.lt_of_not_le reached)
    cases touches : action.touches key with
    | true => simp [some, Nat.lt_of_not_le reached]
    | false => simp [some]

/-- What becomes of an entry on the agenda. -/
def fate (clock : Nat) (rest : List (Action κ)) (register : Register κ) :
    Nat × Happening κ → List (Item κ)
  | (due, .elapsed key ticket task) =>
    if register.pending.get? key = some ticket then outlook key task due clock rest else []
  | (due, .ended tag) => [ending tag due (clock + elapsed rest)]

namespace Timeline

/-- The events so far and what becomes of all entries. -/
def prospect (clock : Nat) (rest : List (Action κ)) (timeline : Timeline κ) : List (Item κ) :=
  timeline.state.events.map (fun event => .event event.1 event.2) ++
    timeline.agenda.entries.flatMap (fate clock rest timeline.state.register)

/-- Each task that is pending has its entry on the agenda, and each entry has a ticket of its own. -/
structure Sound (timeline : Timeline κ) : Prop where
  ordered : timeline.agenda.Ordered
  drawn : ∀ due key ticket task, (due, .elapsed key ticket task) ∈ timeline.agenda.entries →
    ticket < timeline.state.register.nextTicket
  distinct : (timeline.agenda.entries.filterMap (·.2.ticket?)).Nodup
  held : ∀ key ticket, timeline.state.register.pending.get? key = some ticket →
    ∃ due task, (due, .elapsed key ticket task) ∈ timeline.agenda.entries

/-! ### The clock moves -/

/-- The next input of a run: a task ends, an entry is out of date, or a task starts. -/
inductive Tick (last : Nat) (before after : Timeline κ) : Prop
  | ended (due tag : Nat) (rest : List (Nat × Happening κ)) (reached : due ≤ last)
      (entries : before.agenda.entries = (due, .ended tag) :: rest)
      (result : after = ⟨before.state.note due (.finished tag), ⟨due, rest⟩⟩)
  | missed (due : Nat) (key : κ) (ticket : Nat) (task : Task) (rest : List (Nat × Happening κ))
      (reached : due ≤ last)
      (entries : before.agenda.entries = (due, .elapsed key ticket task) :: rest)
      (dropped : before.state.register.pending.get? key ≠ some ticket)
      (result : after = ⟨before.state, ⟨due, rest⟩⟩)
  | starts (due : Nat) (key : κ) (ticket : Nat) (task : Task) (rest : List (Nat × Happening κ))
      (register : Register κ) (reached : due ≤ last)
      (entries : before.agenda.entries = (due, .elapsed key ticket task) :: rest)
      (pending : before.state.register.pending.get? key = some ticket)
      (claimed : register = (before.state.register.cancel key).1)
      (result : after =
        if task.duration = 0 then
          ⟨{ before.state with register := register }.note due (.finished task.tag), ⟨due, rest⟩⟩
        else
          ⟨{ before.state with register := register }.note due (.started task.tag),
            (⟨due, rest⟩ : Agenda (Happening κ)).plan (.after task.duration, .ended task.tag)⟩)

theorem tick_cases {before after : Timeline κ} {last : Nat} (ordered : before.agenda.Ordered)
    (ticks : Simulation.tick? machine { limit := some last } before = some after) :
    Tick last before after := by
  obtain ⟨due, happening, rest, entries, reached, result⟩ := Simulation.tick?_eq_some ticks
  rw [Nat.max_eq_right (ordered.first entries)] at result
  cases happening with
  | ended tag => exact .ended due tag rest reached entries result
  | elapsed key ticket task =>
    simp only [Simulation.feed, Simulation.now, machine, Register.claim?] at result
    by_cases pending : before.state.register.pending.get? key = some ticket
    · refine .starts due key ticket task rest _ reached entries pending rfl ?_
      simp only [pending, if_true] at result
      rw [result]
      split <;> rfl
    · simp only [pending, if_false] at result
      exact .missed due key ticket task rest reached entries pending result

namespace Sound

variable {before : Timeline κ} {state : State κ} {agenda : Agenda (Happening κ)}

theorem rest {due : Nat} {happening : Happening κ} {rest : List (Nat × Happening κ)}
    (sound : before.Sound) (entries : before.agenda.entries = (due, happening) :: rest)
    (tickets : state.register.nextTicket = before.state.register.nextTicket)
    (pending : ∀ key ticket, state.register.pending.get? key = some ticket →
      before.state.register.pending.get? key = some ticket ∧
        ∀ task, happening ≠ .elapsed key ticket task) :
    Sound ⟨state, ⟨due, rest⟩⟩ := by
  obtain ⟨ordered, drawn, distinct, held⟩ := sound
  rw [entries] at drawn distinct held
  refine ⟨?_, ?_, ?_, ?_⟩
  · exact ordered.rest entries
  · intro due key ticket task member
    exact tickets ▸ drawn due key ticket task (List.mem_cons_of_mem _ member)
  · exact distinct.sublist ((List.sublist_cons_self ..).filterMap _)
  · intro key ticket now
    obtain ⟨earlier, other⟩ := pending key ticket now
    obtain ⟨time, task, member⟩ := held key ticket earlier
    rcases List.mem_cons.mp member with same | member
    · exact absurd (congrArg Prod.snd same).symm (other task)
    · exact ⟨time, task, member⟩

theorem unshared {due ticket : Nat} {happening : Happening κ} {rest : List (Nat × Happening κ)}
    (sound : before.Sound) (entries : before.agenda.entries = (due, happening) :: rest)
    (has : happening.ticket? = some ticket) :
    ∀ entry ∈ rest, entry.2.ticket? ≠ some ticket := by
  have distinct := sound.distinct
  simp only [entries, List.filterMap_cons, has] at distinct
  intro entry member same
  exact (List.nodup_cons.mp distinct).1 (List.mem_filterMap.mpr ⟨entry, member, same⟩)

theorem unused (sound : before.Sound) :
    ∀ entry ∈ before.agenda.entries,
      entry.2.ticket? ≠ some before.state.register.nextTicket := by
  rintro ⟨due, happening⟩ member same
  cases happening with
  | ended tag => cases same
  | elapsed key ticket task =>
    have below := sound.drawn due key ticket task member
    exact Nat.ne_of_lt below (Option.some.inj same)

theorem given (sound : before.Sound) {key : κ} {ticket : Nat}
    (pending : before.state.register.pending.get? key = some ticket) :
    ticket < before.state.register.nextTicket := by
  obtain ⟨due, task, member⟩ := sound.held key ticket pending
  exact sound.drawn due key ticket task member

/-- No two keys have the same ticket. -/
theorem holder (sound : before.Sound) {one other : κ} {ticket : Nat}
    (first : before.state.register.pending.get? one = some ticket)
    (second : before.state.register.pending.get? other = some ticket) : one = other := by
  obtain ⟨due, task, member⟩ := sound.held one ticket first
  obtain ⟨time, twin, present⟩ := sound.held other ticket second
  have apart := List.pairwise_filterMap.mp sound.distinct
  have symmetric : Std.Symm fun entry next : Nat × Happening κ =>
      ∀ drawn, entry.2.ticket? = some drawn → ∀ later, next.2.ticket? = some later →
        drawn ≠ later :=
    ⟨fun _ _ apart later last drawn first => (apart drawn first later last).symm⟩
  -- Each of the keys has an entry with the ticket, and no two entries have the same one.
  by_contra different
  refine apart.forall member present ?_ ticket rfl ticket rfl rfl
  rintro ⟨⟩
  exact different rfl

theorem planEnd (sound : Sound ⟨state, agenda⟩) (delay tag : Nat) :
    Sound ⟨state, agenda.plan (.after delay, .ended tag)⟩ := by
  have entries := Agenda.insert_perm (agenda.now + delay) (Happening.ended tag) agenda.entries
  refine ⟨sound.ordered.plan .., ?_, ?_, ?_⟩
  · intro due key ticket task member
    rcases Agenda.mem_insert.mp member with same | member
    · cases same
    · exact sound.drawn due key ticket task member
  · exact (entries.filterMap _).nodup_iff.mpr sound.distinct
  · intro key ticket now
    obtain ⟨due, task, member⟩ := sound.held key ticket now
    exact ⟨due, task, Agenda.mem_insert.mpr (.inr member)⟩

theorem tick {after : Timeline κ} {last : Nat} (sound : before.Sound)
    (ticks : Tick last before after) : after.Sound := by
  cases ticks with
  | ended due tag rest reached entries result =>
    subst result
    exact sound.rest entries rfl fun _ _ now => ⟨now, fun _ => nofun⟩
  | missed due key ticket task rest reached entries dropped result =>
    subst result
    refine sound.rest entries rfl fun other number now => ⟨now, ?_⟩
    rintro task ⟨⟩
    exact dropped now
  | starts due key ticket task rest register reached entries pending claimed result =>
    have kept : ∀ other number, register.pending.get? other = some number →
        before.state.register.pending.get? other = some number ∧
          ∀ otherTask, Happening.elapsed key ticket task ≠ .elapsed other number otherTask := by
      intro other number now
      rw [claimed, Register.cancel, Table.get?_erase] at now
      split at now
      · cases now
      · rename_i different
        refine ⟨now, ?_⟩
        rintro otherTask ⟨⟩
        exact different rfl
    have tickets : register.nextTicket = before.state.register.nextTicket := by
      rw [claimed]
      rfl
    rw [result]
    split
    · exact sound.rest entries tickets kept
    · exact (sound.rest entries tickets kept).planEnd ..

end Sound

/-- Entries of other tickets do not notice that a task is taken out to run. -/
theorem fate_cancel {clock : Nat} {rest : List (Action κ)} {register : Register κ} {key : κ}
    {ticket : Nat} (pending : register.pending.get? key = some ticket) (entry : Nat × Happening κ)
    (other : entry.2.ticket? ≠ some ticket) :
    fate clock rest (register.cancel key).1 entry = fate clock rest register entry := by
  obtain ⟨due, happening⟩ := entry
  cases happening with
  | ended tag => rfl
  | elapsed otherKey number task =>
    have same : ((register.cancel key).1.pending.get? otherKey = some number) ↔
        register.pending.get? otherKey = some number := by
      rw [Register.cancel, Table.get?_erase]
      split
      · rename_i equal
        rw [equal, pending]
        refine iff_of_false (by simp) fun same => other same.symm
      · exact Iff.rfl
    simp only [fate, same]

/-- What is taken from the agenda becomes events or is planned anew. -/
theorem prospect_tick {before after : Timeline κ} {last clock : Nat} {rest : List (Action κ)}
    (sound : before.Sound) (ticks : Tick last before after) (within : last ≤ clock) :
    (after.prospect clock rest).Perm (before.prospect clock rest) := by
  cases ticks with
  | ended due tag others reached entries result =>
    have inTime : due ≤ clock + elapsed rest := by omega
    subst result
    simp [prospect, entries, State.note, fate, ending, inTime]
  | missed due key ticket task others reached entries dropped result =>
    subst result
    simp [prospect, entries, fate, dropped]
  | starts due key ticket task others register reached entries pending claimed result =>
    have unnoticed : others.flatMap (fate clock rest register) =
        others.flatMap (fate clock rest before.state.register) := by
      rw [claimed]
      exact List.flatMap_congr fun entry member =>
        fate_cancel pending entry (sound.unshared entries rfl entry member)
    have started : fate clock rest before.state.register (due, .elapsed key ticket task) =
        task.course due (clock + elapsed rest) := by
      have now : due - clock = 0 := by omega
      have inTime : due ≤ clock + elapsed rest := by omega
      simp [fate, pending, outlook, now, inTime]
    rw [result]
    by_cases instant : task.duration = 0
    · simp [prospect, entries, State.note, started, Task.course, instant, unnoticed]
    · have planned := (Agenda.insert_perm (due + task.duration) (Happening.ended task.tag)
        others).flatMap_right (fate clock rest register)
      simp only [instant, if_false, prospect, State.note, Agenda.plan, entries, List.flatMap_cons,
        started, Task.course, List.map_append]
      rw [← unnoticed]
      refine (planned.append_left _).trans ?_
      simp [fate]

theorem load_tick {before after : Timeline κ} {last : Nat} (ticks : Tick last before after) :
    after.load machine < before.load machine := by
  cases ticks with
  | ended due tag rest reached entries result =>
    subst result
    simp [Simulation.load, entries, machine]
  | missed due key ticket task rest reached entries dropped result =>
    subst result
    simp [Simulation.load, entries, machine]
  | starts due key ticket task rest register reached entries pending claimed result =>
    rw [result]
    split
    · simp [Simulation.load, entries, machine]
    · rw [Simulation.load_plan]
      simp [Simulation.load, entries, machine]

/-! ### Timers are stopped -/

omit [DecidableEq κ] in
theorem mem_abort {timeline : Timeline κ} {tickets : List Nat} {entry : Nat × Happening κ} :
    entry ∈ (timeline.abort tickets).agenda.entries ↔
      entry ∈ timeline.agenda.entries ∧ ∀ ticket ∈ tickets, entry.2.ticket? ≠ some ticket := by
  obtain ⟨due, happening⟩ := entry
  cases happening with
  | ended tag => simp [abort, Agenda.strike, Happening.ticket?]
  | elapsed key ticket task => simp [abort, Agenda.strike, Happening.ticket?, List.forall_mem_ne]

section Abort

variable {timeline : Timeline κ} {tickets : List Nat}
  (dropped : ∀ ticket ∈ tickets, ∀ key, timeline.state.register.pending.get? key ≠ some ticket)

include dropped

theorem Sound.abort (sound : timeline.Sound) : (timeline.abort tickets).Sound := by
  refine ⟨?_, ?_, ?_, ?_⟩
  · exact sound.ordered.strike fun happening => happening.ticket?.any tickets.contains
  · intro due key ticket task member
    exact sound.drawn due key ticket task (mem_abort.mp member).1
  · exact sound.distinct.sublist (List.filter_sublist.filterMap _)
  · intro key ticket pending
    obtain ⟨due, task, member⟩ := sound.held key ticket pending
    refine ⟨due, task, mem_abort.mpr ⟨member, ?_⟩⟩
    rintro stopped among ⟨⟩
    exact dropped ticket among key pending

/-- To stop the timers of tasks that have been dropped changes nothing in what is to come: left
alone, they would have found their tickets gone. -/
theorem prospect_abort (clock : Nat) (rest : List (Action κ)) :
    (timeline.abort tickets).prospect clock rest = timeline.prospect clock rest := by
  refine congrArg (_ ++ ·) (Agenda.flatMap_strike _ _ _ ?_)
  rintro ⟨due, happening⟩ - stopped
  cases happening with
  | ended tag => cases stopped
  | elapsed key ticket task =>
    have among : ticket ∈ tickets := by simpa [Happening.ticket?] using stopped
    exact if_neg (dropped ticket among key)

end Abort

end Timeline

end LanguageServer.Debounce
