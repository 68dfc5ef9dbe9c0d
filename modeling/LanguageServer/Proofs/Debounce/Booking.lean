import LanguageServer.Debounce.Timeline

/-! What should become of tasks that are scheduled. A task is booked when it is scheduled, and what
becomes of it follows from the actions that come later. -/

namespace LanguageServer.Debounce

variable {κ : Type u}

def Action.time : Action κ → Nat
  | .advance time => time
  | _ => 0

def elapsed : List (Action κ) → Nat
  | [] => 0
  | action :: rest => action.time + elapsed rest

@[simp]
theorem elapsed_nil : elapsed ([] : List (Action κ)) = 0 := rfl

@[simp]
theorem elapsed_cons (action : Action κ) (rest : List (Action κ)) :
    elapsed (action :: rest) = action.time + elapsed rest := rfl

@[simp]
theorem elapsed_append (first second : List (Action κ)) :
    elapsed (first ++ second) = elapsed first + elapsed second := by
  induction first with
  | nil => simp
  | cons action rest ih => simp [ih, Nat.add_assoc]

/-- A task that was scheduled for a key when the clock showed a time, and the actions after that. -/
structure Booking (κ : Type u) where
  key : κ
  task : Task
  time : Nat
  later : List (Action κ)

/-- The tasks that actions schedule, beginning at a time. -/
def bookings (clock : Nat) : List (Action κ) → List (Booking κ)
  | [] => []
  | .schedule key task :: rest => ⟨key, task, clock, rest⟩ :: bookings clock rest
  | action :: rest => bookings (clock + action.time) rest

theorem split_of_mem_bookings {clock : Nat} {actions : List (Action κ)} {booking : Booking κ}
    (member : booking ∈ bookings clock actions) :
    ∃ front, actions = front ++ .schedule booking.key booking.task :: booking.later := by
  induction actions generalizing clock with
  | nil => cases member
  | cons head rest ih =>
    have further : ∀ {clock}, booking ∈ bookings clock rest →
        ∃ front, head :: rest = front ++ .schedule booking.key booking.task :: booking.later := by
      intro clock member
      obtain ⟨front, split⟩ := ih member
      exact ⟨head :: front, congrArg _ split⟩
    cases head with
    | schedule key task =>
      rcases List.mem_cons.mp member with rfl | member
      · exact ⟨[], rfl⟩
      · exact further member
    | cancel key => exact further member
    | cancelAll => exact further member
    | advance time => exact further member

variable [DecidableEq κ]

/-- Whether an action takes its task from a key. -/
def Action.touches (key : κ) : Action κ → Bool
  | .schedule other _ => other = key
  | .cancel other => other = key
  | .cancelAll => true
  | .advance _ => false

/-- Whether no action touches a key before a span of time is over. -/
def undisturbed (key : κ) : Nat → List (Action κ) → Bool
  | _, [] => true
  | span, action :: rest =>
    span == 0 || !action.touches key && undisturbed key (span - action.time) rest

@[simp]
theorem undisturbed_zero (key : κ) (actions : List (Action κ)) : undisturbed key 0 actions = true := by
  cases actions <;> rfl

theorem undisturbed_iff (key : κ) (span : Nat) (actions : List (Action κ)) :
    undisturbed key span actions = true ↔
      ∀ front action back, actions = front ++ action :: back → elapsed front < span →
        action.touches key = false := by
  induction actions generalizing span with
  | nil => simp [undisturbed]
  | cons head rest ih =>
    simp only [undisturbed, Bool.or_eq_true, beq_iff_eq, Bool.and_eq_true, Bool.not_eq_true', ih]
    constructor
    · rintro (rfl | ⟨free, later⟩) front action back split within
      · cases within
      · cases front with
        | nil =>
          obtain ⟨rfl, -⟩ := List.cons.inj split
          exact free
        | cons first front =>
          obtain ⟨rfl, tail⟩ := List.cons.inj split
          refine later front action back tail ?_
          rw [elapsed_cons] at within
          omega
    · intro all
      rcases Nat.eq_zero_or_pos span with rfl | positive
      · exact .inl rfl
      · refine .inr ⟨all [] head rest rfl positive, ?_⟩
        intro front action back split within
        refine all (head :: front) action back (congrArg _ split) ?_
        rw [elapsed_cons]
        omega

namespace Booking

variable (delay : Nat) (booking : Booking κ)

/-- No later action touches the key while the clock shows less than the time of the task and the
delay. -/
def Undisturbed : Prop :=
  ∀ front action back, booking.later = front ++ action :: back → elapsed front < delay →
    action.touches booking.key = false

instance : Decidable (booking.Undisturbed delay) :=
  decidable_of_iff _ (undisturbed_iff booking.key delay booking.later)

/-- The clock reaches the end of the delay, and nothing prevents the task. -/
def Starts : Prop :=
  booking.Undisturbed delay ∧ delay ≤ elapsed booking.later

/-- The clock has not reached the end of the delay, and nothing has prevented the task. -/
def Waits : Prop :=
  booking.Undisturbed delay ∧ elapsed booking.later < delay

instance : Decidable (booking.Starts delay) := inferInstanceAs (Decidable (_ ∧ _))

instance : Decidable (booking.Waits delay) := inferInstanceAs (Decidable (_ ∧ _))

/-- The events of a task that starts: it does so when its delay has passed, and it ends when it has
run its time, if the clock gets that far. -/
def events : List (Nat × Event) :=
  let start := booking.time + delay
  if booking.Starts delay then
    if booking.task.duration = 0 then [(start, .finished booking.task.tag)]
    else
      (start, .started booking.task.tag) ::
        if delay + booking.task.duration ≤ elapsed booking.later then
          [(start + booking.task.duration, .finished booking.task.tag)]
        else []
  else []

def waiting? : Option (Nat × Task) :=
  if booking.Waits delay then some (booking.time + delay, booking.task) else none

/-- A booking with actions that come still later. -/
def followed (more : List (Action κ)) : Booking κ :=
  { booking with later := booking.later ++ more }

variable {delay booking}

omit [DecidableEq κ] in
theorem followed_mem {clock : Nat} {actions : List (Action κ)}
    (member : booking ∈ bookings clock actions) (more : List (Action κ)) :
    booking.followed more ∈ bookings clock (actions ++ more) := by
  induction actions generalizing clock with
  | nil => cases member
  | cons head rest ih =>
    cases head with
    | schedule key task =>
      rcases List.mem_cons.mp member with rfl | member
      · exact List.mem_cons_self ..
      · exact List.mem_cons_of_mem _ (ih member)
    | cancel key => exact ih member
    | cancelAll => exact ih member
    | advance time => exact ih member

theorem Waits.prevented (waits : booking.Waits delay) (more : List (Action κ)) :
    ¬ (booking.followed (.cancel booking.key :: more)).Starts delay := by
  rintro ⟨undisturbed, -⟩
  have free := undisturbed booking.later (.cancel booking.key) more rfl waits.2
  simp [Action.touches, followed] at free

/-- A task that waits starts if nothing happens for the delay. -/
theorem Waits.starts (waits : booking.Waits delay) :
    (booking.followed [.advance delay]).Starts delay := by
  refine ⟨?_, by simp [followed, Action.time]⟩
  intro front action back split within
  rcases List.eq_nil_or_concat back with rfl | ⟨init, last, rfl⟩
  · obtain ⟨-, same⟩ := List.append_inj' split rfl
    obtain ⟨rfl, -⟩ := List.cons.inj same
    rfl
  · rw [List.concat_eq_append, ← List.cons_append, ← List.append_assoc] at split
    exact waits.1 front action init (List.append_inj' split rfl).1 within

theorem Waits.last (waits : booking.Waits delay) {clock : Nat} {other : Booking κ}
    (later : other ∈ bookings clock booking.later) : other.key ≠ booking.key := by
  intro same
  obtain ⟨front, split⟩ := split_of_mem_bookings later
  have within : elapsed front < delay := by
    have total := waits.2
    rw [split, elapsed_append] at total
    omega
  have free := waits.1 front _ _ split within
  simp [Action.touches, same] at free

end Booking

def lastBooking? (key : κ) (clock : Nat) (actions : List (Action κ)) : Option (Booking κ) :=
  ((bookings clock actions).filter (·.key = key)).getLast?

/-- Of the tasks of a key, at most the last one waits. -/
theorem waiting_bookings (delay : Nat) (key : κ) (clock : Nat) (actions : List (Action κ)) :
    ((bookings clock actions).filter (·.key = key)).filterMap (Booking.waiting? delay) =
      ((lastBooking? key clock actions).bind (Booking.waiting? delay)).toList := by
  induction actions generalizing clock with
  | nil => rfl
  | cons head rest ih =>
    cases head with
    | schedule other task =>
      by_cases same : other = key
      · subst same
        have before := ih clock
        unfold lastBooking? at before ⊢
        rw [bookings, List.filter_cons_of_pos (by simp)]
        cases found : (bookings clock rest).filter (·.key = other) with
        | nil =>
          cases waits : Booking.waiting? delay ⟨other, task, clock, rest⟩ <;> simp [waits]
        | cons first others =>
          have member : first ∈ (bookings clock rest).filter (·.key = other) := by simp [found]
          obtain ⟨later, key⟩ := List.mem_filter.mp member
          have replaced : Booking.waiting? delay ⟨other, task, clock, rest⟩ = none :=
            if_neg fun waits => waits.last later (of_decide_eq_true key)
          rw [found] at before
          rw [List.filterMap_cons_none replaced, List.getLast?_cons_cons, before]
      · simpa [lastBooking?, bookings, same] using ih clock
    | cancel other => exact ih _
    | cancelAll => exact ih _
    | advance time => exact ih _

theorem waiting_ne_nil_iff (delay : Nat) (key : κ) (booked : List (Booking κ)) :
    (booked.filter (·.key = key)).filterMap (Booking.waiting? delay) ≠ [] ↔
      ∃ booking ∈ booked, booking.key = key ∧ booking.Waits delay := by
  constructor
  · intro some
    obtain ⟨task, member⟩ := List.exists_mem_of_ne_nil _ some
    obtain ⟨booking, present, waits⟩ := List.mem_filterMap.mp member
    obtain ⟨present, same⟩ := List.mem_filter.mp present
    refine ⟨booking, present, of_decide_eq_true same, ?_⟩
    rw [Booking.waiting?] at waits
    split at waits
    · assumption
    · cases waits
  · rintro ⟨booking, present, same, waits⟩
    refine List.ne_nil_of_mem (a := (booking.time + delay, booking.task)) ?_
    exact List.mem_filterMap.mpr ⟨booking, List.mem_filter.mpr ⟨present, decide_eq_true same⟩,
      if_pos waits⟩

end LanguageServer.Debounce
