import LanguageServer.Proofs.Debounce.Outlook

/-! What becomes of the tasks on a timeline is exactly what should become of them. -/

namespace LanguageServer.Debounce

variable {κ : Type u} [DecidableEq κ]

namespace Timeline

/-! ### Runs of the clock -/

/-- A timeline after a run up to a time. What was to come, if certain actions follow when the clock
shows a time that is not earlier, is still to come or has happened. -/
structure Reaches (last clock : Nat) (rest : List (Action κ)) (before after : Timeline κ) : Prop where
  sound : after.Sound
  delay : after.state.delay = before.state.delay
  since : before.now ≤ after.now
  upTo : after.now ≤ last
  conserved : (after.prospect clock rest).Perm (before.prospect clock rest)

namespace Reaches

variable {last clock : Nat} {rest : List (Action κ)} {before middle after : Timeline κ}

theorem refl (sound : before.Sound) (ahead : before.now ≤ last) :
    Reaches last clock rest before before :=
  ⟨sound, rfl, Nat.le_refl _, ahead, .refl _⟩

theorem tick (reaches : Reaches last clock rest before middle) (within : last ≤ clock)
    (ticks : Tick last middle after) : Reaches last clock rest before after := by
  obtain ⟨sound, delay, since, upTo, conserved⟩ := reaches
  have next : middle.now ≤ after.now ∧ after.now ≤ last ∧ after.state.delay = middle.state.delay := by
    cases ticks with
    | ended due tag others reached entries result =>
      subst result
      exact ⟨sound.ordered.first entries, reached, rfl⟩
    | missed due key ticket task others reached entries dropped result =>
      subst result
      exact ⟨sound.ordered.first entries, reached, rfl⟩
    | starts due key ticket task others register reached entries pending claimed result =>
      rw [result]
      split <;> exact ⟨sound.ordered.first entries, reached, rfl⟩
  obtain ⟨later, reached, same⟩ := next
  exact ⟨sound.tick ticks, same.trans delay, Nat.le_trans since later, reached,
    (prospect_tick sound ticks within).trans conserved⟩

end Reaches

/-- A run up to a time takes all that is due by then. -/
theorem reaches_run {last clock : Nat} (rest : List (Action κ)) {before : Timeline κ}
    (sound : before.Sound) (ahead : before.now ≤ last) (within : last ≤ clock) :
    let after : Timeline κ := Simulation.run machine { limit := some last } before
    Reaches last clock rest before after ∧ ∀ entry ∈ after.agenda.entries, last < entry.1 := by
  intro after
  have next : ∀ (middle later : Timeline κ), Reaches last clock rest before middle →
      middle.tick? machine { limit := some last } = some later →
      Reaches last clock rest before later ∧ later.load machine < middle.load machine := by
    intro middle later reaches ticks
    have ticks := tick_cases reaches.sound.ordered ticks
    exact ⟨reaches.tick within ticks, load_tick ticks⟩
  have start : Reaches last clock rest before before := .refl sound ahead
  have reached : Reaches last clock rest before after :=
    Simulation.runFor_induction (fun middle later reaches ticks => (next middle later reaches ticks).1)
      _ before start
  have ended : Simulation.tick? machine { limit := some last } after = none :=
    Simulation.runFor_ends next _ before start (Nat.le_refl _)
  exact ⟨reached, Simulation.later_of_tick?_eq_none reached.sound.ordered ended⟩

/-- A timeline on which all that is due has been done. -/
structure Settled (timeline : Timeline κ) : Prop where
  sound : timeline.Sound
  later : ∀ entry ∈ timeline.agenda.entries, timeline.now < entry.1

/-- Doing what is due changes nothing in what is to come. -/
theorem settle_conserves (rest : List (Action κ)) {timeline : Timeline κ} (sound : timeline.Sound) :
    let after : Timeline κ := Simulation.settle machine timeline
    after.Settled ∧ after.now = timeline.now ∧ after.state.delay = timeline.state.delay ∧
      (after.prospect timeline.now rest).Perm (timeline.prospect timeline.now rest) := by
  intro after
  obtain ⟨reached, later⟩ := reaches_run rest sound (Nat.le_refl timeline.now) (Nat.le_refl _)
  have same : after.now = timeline.now := Nat.le_antisymm reached.upTo reached.since
  refine ⟨⟨reached.sound, ?_⟩, same, reached.delay, reached.conserved⟩
  rw [same]
  exact later

/-! ### Actions -/

/-- What should become of the tasks that actions schedule. -/
def booked (delay clock : Nat) (actions : List (Action κ)) : List (Item κ) :=
  (bookings clock actions).flatMap (Booking.items delay)

/-- A timeline after an action. What was to come with this action is to come without it. -/
structure Acts (action : Action κ) (rest : List (Action κ)) (before after : Timeline κ) : Prop where
  sound : after.Sound
  delay : after.state.delay = before.state.delay
  now : after.now = before.now + action.time
  conserved : (after.prospect after.now rest ++ booked after.state.delay after.now rest).Perm
    (before.prospect before.now (action :: rest) ++
      booked before.state.delay before.now (action :: rest))

theorem Acts.abort {action : Action κ} {rest : List (Action κ)} {before after : Timeline κ}
    (acts : Acts action rest before after) {tickets : List Nat}
    (dropped : ∀ ticket ∈ tickets, ∀ key, after.state.register.pending.get? key ≠ some ticket) :
    Acts action rest before (after.abort tickets) := by
  refine ⟨acts.sound.abort dropped, acts.delay, acts.now, ?_⟩
  rw [prospect_abort dropped]
  exact acts.conserved

/-- Entries of tasks that an action prevents have no more to say, and all others the same. -/
theorem fate_act {clock : Nat} {rest : List (Action κ)} {action : Action κ}
    {register after : Register κ} (still : action.time = 0) (entry : Nat × Happening κ)
    (later : clock < entry.1)
    (pending : ∀ key ticket, entry.2.ticket? = some ticket →
      (after.pending.get? key = some ticket ↔
        register.pending.get? key = some ticket ∧ action.touches key = false)) :
    fate clock rest after entry = fate clock (action :: rest) register entry := by
  obtain ⟨due, happening⟩ := entry
  cases happening with
  | ended tag => simp [fate, still]
  | elapsed key ticket task =>
    have same := pending key ticket rfl
    simp only [fate, outlook_cons, still, Nat.add_zero, same]
    by_cases live : register.pending.get? key = some ticket
    · cases touches : action.touches key with
      | true => simp [later]
      | false => simp
    · simp [live]

namespace Settled

variable {timeline : Timeline κ} (rest : List (Action κ))

/-- An action that leaves the clock alone, and of the agenda takes only timers of tasks that it has
dropped. -/
theorem acts_of_register (settled : timeline.Settled) {action : Action κ} {register : Register κ}
    {tickets : List Nat} (still : action.time = 0)
    (unbooked : bookings timeline.now (action :: rest) = bookings timeline.now rest)
    (numbered : register.nextTicket = timeline.state.register.nextTicket)
    (pending : ∀ key ticket, register.pending.get? key = some ticket ↔
      timeline.state.register.pending.get? key = some ticket ∧ action.touches key = false)
    (dropped : ∀ ticket ∈ tickets, ∀ key, register.pending.get? key ≠ some ticket) :
    Acts action rest timeline
      (abort ⟨{ timeline.state with register := register }, timeline.agenda⟩ tickets) := by
  obtain ⟨⟨ordered, drawn, distinct, held⟩, later⟩ := settled
  refine Acts.abort ?_ dropped
  refine ⟨⟨ordered, ?_, distinct, ?_⟩, rfl, ?_, ?_⟩
  · rw [numbered]
    exact drawn
  · intro key ticket now
    exact held key ticket ((pending key ticket).mp now).1
  · rw [still]
    rfl
  · have same : timeline.agenda.entries.flatMap (fate timeline.now rest register) =
        timeline.agenda.entries.flatMap
          (fate timeline.now (action :: rest) timeline.state.register) := by
      refine List.flatMap_congr fun entry member => ?_
      exact fate_act still entry (later entry member) fun key ticket _ => pending key ticket
    refine .of_eq ?_
    simp only [prospect, booked, unbooked]
    exact congrArg (_ ++ · ++ _) same

theorem acts_cancel (settled : timeline.Settled) (key : κ) :
    Acts (.cancel key) rest timeline (timeline.act (.cancel key)).1 := by
  refine settled.acts_of_register rest rfl rfl rfl ?_ ?_
  · intro other ticket
    simp only [Table.get?_erase, Action.touches, decide_eq_false_iff_not]
    split
    · rename_i same
      simp [same]
    · rename_i different
      simp [Ne.symm different]
  · intro ticket among other waits
    have pending := Option.mem_toList.mp among
    simp only [Table.get?_erase] at waits
    split at waits
    · cases waits
    · rename_i different
      exact different (settled.sound.holder waits pending)

theorem acts_cancelAll (settled : timeline.Settled) :
    Acts .cancelAll rest timeline (timeline.act .cancelAll).1 := by
  refine settled.acts_of_register rest rfl rfl rfl ?_ ?_
  · intro other ticket
    simp [Register.cancelAll, Action.touches]
  · intro ticket among other
    simp [Register.cancelAll]

end Settled

/-- A timeline on which a task has been scheduled, and the timer of the task that it replaces goes
on. -/
def planned (timeline : Timeline κ) (key : κ) (task : Task) : Timeline κ :=
  ⟨{ timeline.state with register := (timeline.state.register.schedule key).1 },
    timeline.agenda.plan
      (.after timeline.state.delay, .elapsed key timeline.state.register.nextTicket task)⟩

theorem Sound.planned {timeline : Timeline κ} (sound : timeline.Sound) (key : κ) (task : Task) :
    (timeline.planned key task).Sound := by
  have entries := Agenda.insert_perm (timeline.now + timeline.state.delay)
    (.elapsed key timeline.state.register.nextTicket task) timeline.agenda.entries
  refine ⟨sound.ordered.plan .., ?_, ?_, ?_⟩
  · intro due other ticket otherTask member
    rcases Agenda.mem_insert.mp member with same | member
    · cases same
      exact Nat.lt_succ_self _
    · exact Nat.lt_succ_of_lt (sound.drawn due other ticket otherTask member)
  · refine (entries.filterMap _).nodup_iff.mpr (List.nodup_cons.mpr ⟨?_, sound.distinct⟩)
    intro member
    obtain ⟨entry, present, same⟩ := List.mem_filterMap.mp member
    exact sound.unused entry present same
  · intro other ticket now
    simp only [Timeline.planned, Register.schedule, Table.get?_put] at now
    split at now
    · rename_i same
      rw [← Option.some.inj now, same]
      exact ⟨_, task, Agenda.mem_insert.mpr (.inl rfl)⟩
    · obtain ⟨due, otherTask, member⟩ := sound.held other ticket now
      exact ⟨due, otherTask, Agenda.mem_insert.mpr (.inr member)⟩

namespace Settled

variable {timeline : Timeline κ} (rest : List (Action κ))

/-- A task that is scheduled takes the place of the one that was pending for its key. -/
theorem fate_schedule (settled : timeline.Settled) (key : κ) (task : Task) :
    timeline.agenda.entries.flatMap
        (fate timeline.now rest (timeline.state.register.schedule key).1) =
      timeline.agenda.entries.flatMap
        (fate timeline.now (.schedule key task :: rest) timeline.state.register) := by
  refine List.flatMap_congr fun entry member => ?_
  refine fate_act rfl entry (settled.later entry member) fun other ticket has => ?_
  have different : timeline.state.register.nextTicket ≠ ticket := by
    rintro rfl
    exact settled.sound.unused entry member has
  simp only [Register.schedule, Table.get?_put, Action.touches, decide_eq_false_iff_not]
  split
  · rename_i same
    simp [same, different]
  · rename_i apart
    simp [Ne.symm apart]

theorem acts_planned (settled : timeline.Settled) (key : κ) (task : Task) :
    Acts (.schedule key task) rest timeline (timeline.planned key task) := by
  refine ⟨settled.sound.planned key task, rfl, rfl, ?_⟩
  have booking : fate timeline.now rest (timeline.state.register.schedule key).1
        (timeline.now + timeline.state.delay,
          .elapsed key timeline.state.register.nextTicket task) =
      Booking.items timeline.state.delay ⟨key, task, timeline.now, rest⟩ := by
    simp [fate, Register.schedule, Booking.items]
  have planned := (Agenda.insert_perm (timeline.now + timeline.state.delay)
    (.elapsed key timeline.state.register.nextTicket task) timeline.agenda.entries).flatMap_right
    (fate timeline.now rest (timeline.state.register.schedule key).1)
  rw [List.flatMap_cons, booking, settled.fate_schedule rest key task] at planned
  refine ((planned.append_left _).append_right _).trans ?_
  simp only [prospect, booked, bookings, List.flatMap_cons, List.append_assoc]
  exact (List.perm_append_comm_assoc ..).append_left _

theorem acts_schedule (settled : timeline.Settled) (key : κ) (task : Task) :
    Acts (.schedule key task) rest timeline (timeline.act (.schedule key task)).1 := by
  refine (settled.acts_planned rest key task).abort ?_
  intro ticket among other waits
  have pending := Option.mem_toList.mp among
  simp only [planned, Register.schedule, Table.get?_put] at waits
  split at waits
  · cases waits
    exact Nat.lt_irrefl _ (settled.sound.given pending)
  · rename_i different
    exact different (settled.sound.holder waits pending)

theorem acts_advance (settled : timeline.Settled) (time : Nat) :
    Acts (.advance time) rest timeline (timeline.act (.advance time)).1 := by
  have same : timeline.prospect timeline.now (.advance time :: rest) =
      timeline.prospect (timeline.now + time) rest := by
    refine congrArg (_ ++ ·) (List.flatMap_congr fun entry _ => ?_)
    obtain ⟨due, happening⟩ := entry
    cases happening with
    | ended tag => simp [fate, Action.time, Nat.add_assoc]
    | elapsed key ticket task => simp [fate, outlook_cons, Action.touches, Action.time]
  obtain ⟨reached, later⟩ := reaches_run rest settled.sound (Nat.le_add_right timeline.now time)
    (Nat.le_refl _)
  obtain ⟨⟨ordered, drawn, distinct, held⟩, delay, -, upTo, conserved⟩ := reached
  have now : (timeline.act (.advance time)).1.now = timeline.now + time := Nat.max_eq_right upTo
  refine ⟨⟨⟨ordered.sorted, ?_⟩, drawn, distinct, held⟩, delay, now, ?_⟩
  · intro entry member
    exact Nat.le_of_lt (Nat.lt_of_le_of_lt (Nat.le_of_eq now) (later entry member))
  · rw [now, same]
    have delays : (timeline.act (.advance time)).1.state.delay = timeline.state.delay := delay
    rw [delays]
    exact conserved.append_right _

end Settled

/-- An action, and all that is due after it, changes nothing in what is to come. -/
theorem step_conserves (rest : List (Action κ)) {timeline : Timeline κ} (settled : timeline.Settled)
    (action : Action κ) :
    let after := (timeline.step action).1
    after.Settled ∧ Acts action rest timeline after := by
  intro after
  have acts : Acts action rest timeline (timeline.act action).1 := by
    cases action with
    | schedule key task => exact settled.acts_schedule rest key task
    | cancel key => exact settled.acts_cancel rest key
    | cancelAll => exact settled.acts_cancelAll rest
    | advance time => exact settled.acts_advance rest time
  obtain ⟨settledAfter, now, delay, conserved⟩ := settle_conserves rest acts.sound
  refine ⟨settledAfter, settledAfter.sound, delay.trans acts.delay, now.trans acts.now, ?_⟩
  have same : after.now = (timeline.act action).1.now := now
  have delays : after.state.delay = (timeline.act action).1.state.delay := delay
  rw [same, delays]
  exact (conserved.append_right _).trans acts.conserved

/-- After a run, all that should become of the tasks has happened or is still to come. -/
theorem run_conserves {timeline : Timeline κ} (settled : timeline.Settled)
    (actions : List (Action κ)) :
    let after := timeline.run actions
    after.Settled ∧ after.now = timeline.now + elapsed actions ∧
      (after.prospect after.now []).Perm
        (timeline.prospect timeline.now actions ++
          booked timeline.state.delay timeline.now actions) := by
  induction actions generalizing timeline with
  | nil =>
    refine ⟨settled, rfl, ?_⟩
    simp [booked, bookings, run]
  | cons action rest ih =>
    obtain ⟨settledNext, acts⟩ := step_conserves rest settled action
    obtain ⟨settledAfter, now, conserved⟩ := ih settledNext
    refine ⟨settledAfter, ?_, conserved.trans acts.conserved⟩
    rw [elapsed_cons, ← Nat.add_assoc, ← acts.now]
    exact now

/-! ### What can be seen -/

theorem settled_start (delay : Nat) : (start delay : Timeline κ).Settled :=
  ⟨⟨⟨.nil, fun _ member => nomatch member⟩, (fun _ _ _ _ member => nomatch member), .nil,
    (fun _ _ pending => nomatch pending)⟩, fun _ member => nomatch member⟩

/-- The task that an entry is to start, if it is the one that is pending for a key. -/
def pendingTask? (register : Register κ) (key : κ) : Nat × Happening κ → Option (Nat × Task)
  | (due, .elapsed other ticket task) =>
    if other = key ∧ register.pending.get? key = some ticket then some (due, task) else none
  | (_, .ended _) => none

/-- The tasks of a key that are still to start, with the times at which they are due. -/
def pendingOf (timeline : Timeline κ) (key : κ) : List (Nat × Task) :=
  timeline.agenda.entries.filterMap (pendingTask? timeline.state.register key)

namespace Settled

variable {timeline : Timeline κ}

/-- An entry that is still to come is no event yet, and waits if its task is pending. -/
theorem fate_present (clock : Nat) (register : Register κ) (entry : Nat × Happening κ)
    (later : clock < entry.1) :
    (fate clock [] register entry).filterMap Item.event? = [] ∧
      ∀ key, (fate clock [] register entry).filterMap (Item.waiting? key) =
        (pendingTask? register key entry).toList := by
  obtain ⟨due, happening⟩ := entry
  have future : ¬ due ≤ clock := Nat.not_le_of_lt later
  cases happening with
  | ended tag => simp [fate, ending, future, Item.event?, Item.waiting?, pendingTask?]
  | elapsed other ticket task =>
    by_cases pending : register.pending.get? other = some ticket
    · have fates : fate clock [] register (due, .elapsed other ticket task) =
          [.waiting other due task] := by
        simp [fate, pending, outlook, undisturbed, future]
      rw [fates]
      refine ⟨rfl, fun key => ?_⟩
      by_cases same : other = key
      · subst same
        simp [Item.waiting?, pendingTask?, pending]
      · simp [Item.waiting?, pendingTask?, same]
    · have fates : fate clock [] register (due, .elapsed other ticket task) = [] := by
        simp [fate, pending]
      rw [fates]
      refine ⟨rfl, fun key => ?_⟩
      by_cases same : other = key
      · subst same
        simp [pendingTask?, pending]
      · simp [pendingTask?, same]

theorem prospect_events (settled : timeline.Settled) :
    (timeline.prospect timeline.now []).filterMap Item.event? = timeline.state.events := by
  have none : (timeline.agenda.entries.flatMap
      (fate timeline.now [] timeline.state.register)).filterMap Item.event? = [] := by
    rw [List.filterMap_flatMap]
    refine List.flatMap_eq_nil_iff.mpr fun entry member => ?_
    exact (fate_present _ _ entry (settled.later entry member)).1
  rw [prospect, List.filterMap_append, none, List.append_nil, List.filterMap_map]
  exact List.filterMap_some

theorem prospect_waiting (settled : timeline.Settled) (key : κ) :
    (timeline.prospect timeline.now []).filterMap (Item.waiting? key) = timeline.pendingOf key := by
  have none : (timeline.state.events.map fun event => Item.event event.1 event.2).filterMap
      (Item.waiting? key) = [] := by
    rw [List.filterMap_map]
    exact List.filterMap_eq_nil_iff.mpr fun _ _ => rfl
  rw [prospect, List.filterMap_append, none, List.nil_append, List.filterMap_flatMap, pendingOf,
    List.filterMap_eq_flatMap_toList]
  refine List.flatMap_congr fun entry member => ?_
  exact (fate_present _ _ entry (settled.later entry member)).2 key

/-- A key has a ticket exactly if a task of the key is still to start. -/
theorem contains_iff_pendingOf (settled : timeline.Settled) (key : κ) :
    timeline.state.register.pending.contains key = true ↔ timeline.pendingOf key ≠ [] := by
  rw [Table.contains_iff]
  constructor
  · rintro ⟨ticket, pending⟩
    obtain ⟨due, task, member⟩ := settled.sound.held key ticket pending
    refine List.ne_nil_of_mem (a := (due, task)) (List.mem_filterMap.mpr ⟨_, member, ?_⟩)
    simp [pendingTask?, pending]
  · intro some
    obtain ⟨task, member⟩ := List.exists_mem_of_ne_nil _ some
    obtain ⟨⟨due, happening⟩, -, same⟩ := List.mem_filterMap.mp member
    cases happening with
    | ended tag => cases same
    | elapsed other ticket otherTask =>
      simp only [pendingTask?] at same
      split at same
      · rename_i has
        exact ⟨ticket, has.2⟩
      · cases same

end Settled

end Timeline

namespace Booking

variable (delay : Nat) (booking : Booking κ)

theorem items_eq : booking.items delay =
    if booking.Starts delay then
      booking.task.course (booking.time + delay) (booking.time + elapsed booking.later)
    else if booking.Waits delay then [.waiting booking.key (booking.time + delay) booking.task]
    else [] := by
  have same : undisturbed booking.key delay booking.later = true ↔ booking.Undisturbed delay :=
    undisturbed_iff ..
  simp only [items, outlook, Nat.add_sub_cancel_left, same, Nat.add_le_add_iff_left, Starts, Waits]
  by_cases undisturbed : booking.Undisturbed delay
  · by_cases reached : delay ≤ elapsed booking.later
    · simp [undisturbed, reached]
    · simp [undisturbed, reached, Nat.lt_of_not_le reached]
  · simp [undisturbed]

theorem items_events : (booking.items delay).filterMap Item.event? = booking.events delay := by
  rw [items_eq, events]
  split
  · simp only [Task.course, ending, Nat.add_assoc, Nat.add_le_add_iff_left]
    split
    · rfl
    · split <;> rfl
  · split <;> rfl

theorem items_waiting (key : κ) :
    (booking.items delay).filterMap (Item.waiting? key) =
      if booking.key = key then (booking.waiting? delay).toList else [] := by
  rw [items_eq, waiting?]
  by_cases starts : booking.Starts delay
  · have started : ¬ booking.Waits delay := fun waits => Nat.not_lt_of_le starts.2 waits.2
    have none : (booking.task.course (booking.time + delay)
        (booking.time + elapsed booking.later)).filterMap (Item.waiting? key) = [] := by
      simp only [Task.course, ending]
      split
      · rfl
      · split <;> rfl
    simp [starts, started, none]
  · by_cases waits : booking.Waits delay
    · by_cases same : booking.key = key <;> simp [starts, waits, same, Item.waiting?]
    · simp [starts, waits]

end Booking

namespace Timeline

theorem booked_events (delay clock : Nat) (actions : List (Action κ)) :
    (booked delay clock actions).filterMap Item.event? =
      (bookings clock actions).flatMap (Booking.events delay) := by
  rw [booked, List.filterMap_flatMap]
  exact List.flatMap_congr fun booking _ => booking.items_events delay

theorem booked_waiting (delay clock : Nat) (actions : List (Action κ)) (key : κ) :
    (booked delay clock actions).filterMap (Item.waiting? key) =
      ((lastBooking? key clock actions).bind (Booking.waiting? delay)).toList := by
  rw [booked, List.filterMap_flatMap, ← waiting_bookings, List.filterMap_filter,
    List.filterMap_eq_flatMap_toList]
  refine List.flatMap_congr fun booking _ => ?_
  rw [booking.items_waiting]
  by_cases same : booking.key = key <;> simp [same]

/-- A task is started exactly if no action takes it from its key before its delay is over and the
clock gets that far; it starts when its delay is over and runs to its end. A key has at most one task
that is still to start, which is the last that was scheduled for it. A cancellation tells whether
there is one, which would have started after the delay and never starts now. -/
theorem tasks_run_exactly (delay : Nat) (actions : List (Action κ)) :
    let timeline := (start delay).run actions
    timeline.state.events.Perm ((bookings 0 actions).flatMap (Booking.events delay)) ∧
      (∀ key, timeline.pendingOf key =
        ((lastBooking? key 0 actions).bind (Booking.waiting? delay)).toList) ∧
      (∀ key, (timeline.step (.cancel key)).2 = some true ↔
        ∃ booking ∈ bookings 0 actions, booking.key = key ∧ booking.Waits delay) ∧
      ∀ booking ∈ bookings 0 actions, booking.Waits delay → ∀ more,
        (booking.followed [.advance delay] ∈ bookings 0 (actions ++ [.advance delay]) ∧
          (booking.followed [.advance delay]).Starts delay) ∧
        booking.followed (.cancel booking.key :: more) ∈
            bookings 0 (actions ++ .cancel booking.key :: more) ∧
          ¬ (booking.followed (.cancel booking.key :: more)).Starts delay := by
  intro timeline
  obtain ⟨settled, -, conserved⟩ := run_conserves (settled_start delay) actions
  have pending : ∀ key, timeline.pendingOf key =
      ((lastBooking? key 0 actions).bind (Booking.waiting? delay)).toList := by
    intro key
    have seen := conserved.filterMap (Item.waiting? key)
    rw [settled.prospect_waiting] at seen
    replace seen := seen.trans (.of_eq (booked_waiting delay 0 actions key))
    cases expected : (lastBooking? key 0 actions).bind (Booking.waiting? delay) with
    | none =>
      rw [expected] at seen
      exact seen.eq_nil
    | some task =>
      rw [expected] at seen
      exact List.perm_singleton.mp seen
  refine ⟨?_, pending, ?_, ?_⟩
  · have seen := conserved.filterMap Item.event?
    rw [settled.prospect_events] at seen
    rw [← booked_events]
    exact seen
  · intro key
    refine Option.some_inj.trans ((settled.contains_iff_pendingOf key).trans ?_)
    rw [pending key, ← waiting_bookings]
    exact waiting_ne_nil_iff ..
  · intro booking member waits more
    exact ⟨⟨Booking.followed_mem member _, waits.starts⟩, Booking.followed_mem member _,
      waits.prevented more⟩

/-- A task is scheduled anew before its time, starts, and is not stopped by a cancellation. -/
def rescheduled : List (Action Nat) :=
  [.schedule 7 ⟨1, 5⟩, .advance 4, .schedule 7 ⟨2, 5⟩, .advance 10, .cancel 7, .schedule 7 ⟨3, 0⟩,
    .advance 5]

theorem tasks_run_exactly_rescheduled :
    ((start 10).run rescheduled).state.events.Perm [(14, .started 2), (19, .finished 2)] ∧
      ((start 10).run rescheduled).pendingOf 7 = [(24, ⟨3, 0⟩)] ∧
      (((start 10).run rescheduled).step (.cancel 7)).2 = some true := by
  obtain ⟨events, pending, answer, -⟩ := tasks_run_exactly 10 rescheduled
  refine ⟨?_, ?_, ?_⟩
  · exact events.trans (.of_eq (by decide))
  · exact (pending 7).trans (by decide)
  · exact (answer 7).mpr ⟨⟨7, ⟨3, 0⟩, 14, [.advance 5]⟩, by simp [rescheduled, bookings, Action.time],
      rfl, by decide⟩

end Timeline

end LanguageServer.Debounce
