import LanguageServer.Proofs.Scenario.Trial

/-! Which texts of a document should be checked because it has been at rest. This follows from the
moves alone. -/

namespace LanguageServer.Scenario

open Session

/-! ### What moves say about a document -/

def Move.time : Move → Nat
  | .start _ => 0
  | .pass time => time

def elapsed : List Move → Nat
  | [] => 0
  | move :: rest => move.time + elapsed rest

/-- The text of a document after a move, if it is then open. -/
def Move.text? (uri : Uri) (before : Option String) : Move → Option String
  | .start (.open other text _) => if other = uri then some text else before
  | .start (.change other text _) => if other = uri then before.map fun _ => text else before
  | .start (.close other) => if other = uri then none else before
  | _ => before

/-- The text of a document after moves, if it is then open: that of the last move that opened or
changed it. -/
def textAfter (uri : Uri) (moves : List Move) : Option String :=
  moves.foldl (Move.text? uri) none

/-- Whether a move is a change of a document. -/
def Move.changes (uri : Uri) : Move → Bool
  | .start (.change other _ _) => other = uri
  | _ => false

/-- Whether a move keeps a document from coming to rest. -/
def Move.disturbs (uri : Uri) : Move → Bool
  | .start (.change other _ _) => other = uri
  | .start (.close other) => other = uri
  | .start .shutdown => true
  | _ => false

/-- The moves that are made before a span of time is over. -/
def within : Nat → List Move → List Move
  | _, [] => []
  | 0, _ => []
  | span, move :: rest => move :: within (span - move.time) rest

/-- When a document that has not been disturbed for a span of time after earlier moves is checked, and
with which text. -/
def checkAfter? (uri : Uri) (span : Nat) (earlier later : List Move) : Option (Nat × String) :=
  if span ≤ elapsed later ∧ ∀ move ∈ within span later, move.disturbs uri = false then
    (textAfter uri (earlier ++ within span later)).map (elapsed earlier + span, ·)
  else none

/-- The checks of a document that follow from its changes, if it has to be at rest for a span of time
after each of them: a change counts that is made while the document is open, and that nothing else
disturbs until the time is over. -/
def checksAtRest (uri : Uri) (span : Nat) (earlier : List Move) : List Move → List (Nat × String)
  | [] => []
  | move :: later =>
    let check? :=
      if move.changes uri ∧ (textAfter uri earlier).isSome then
        checkAfter? uri span (earlier ++ [move]) later
      else none
    check?.toList ++ checksAtRest uri span (earlier ++ [move]) later

/-- Changes of a document, each some time after the one before. -/
def burst (uri : Uri) (edits : List (Nat × String × Int)) : List Move :=
  edits.flatMap fun (gap, text, version) => [.pass gap, .start (.change uri text version)]

@[simp]
theorem elapsed_append (first second : List Move) :
    elapsed (first ++ second) = elapsed first + elapsed second := by
  induction first with
  | nil => simp [elapsed]
  | cons move rest ih => simp [elapsed, ih, Nat.add_assoc]

theorem textAfter_append (uri : Uri) (first second : List Move) :
    textAfter uri (first ++ second) = second.foldl (Move.text? uri) (textAfter uri first) :=
  List.foldl_append

/-! ### A watch on a document -/

/-- What has to be known of a document to tell when it comes to rest. -/
structure Watch where
  now : Nat := 0
  /-- The text, if the document is open. -/
  text : Option String := none
  /-- When the document will have been at rest. -/
  due : Option Nat := none

namespace Watch

/-- A move, without what is due by then. -/
def act (uri : Uri) (span : Nat) (watch : Watch) (move : Move) : Watch where
  now := watch.now + move.time
  text := move.text? uri watch.text
  due :=
    if move.changes uri ∧ watch.text.isSome then some (watch.now + span)
    else if move.disturbs uri then none
    else watch.due

/-- What is due, if anything is. -/
def fire (watch : Watch) : Watch × List (Nat × String) :=
  match watch.due with
  | some due =>
    if due ≤ watch.now then ({ watch with due := none }, (watch.text.map (due, ·)).toList)
    else (watch, [])
  | none => (watch, [])

/-- The checks that moves lead to. -/
def run (uri : Uri) (span : Nat) (watch : Watch) : List Move → List (Nat × String)
  | [] => []
  | move :: later =>
    let (watch, checks) := (watch.act uri span move).fire
    checks ++ watch.run uri span later

def after (uri : Uri) (span : Nat) (watch : Watch) (moves : List Move) : Watch :=
  moves.foldl (fun watch move => (watch.act uri span move).fire.1) watch

/-- Nothing is due, and only open documents come to rest. -/
structure Ahead (watch : Watch) : Prop where
  later : ∀ due, watch.due = some due → watch.now < due
  present : watch.due.isSome → watch.text.isSome

variable {uri : Uri} {span : Nat} {watch : Watch}

theorem run_cons (uri : Uri) (span : Nat) (watch : Watch) (move : Move) (later : List Move) :
    watch.run uri span (move :: later) =
      (watch.act uri span move).fire.2 ++ (watch.act uri span move).fire.1.run uri span later := rfl

theorem run_append (uri : Uri) (span : Nat) (watch : Watch) (first second : List Move) :
    watch.run uri span (first ++ second) =
      watch.run uri span first ++ (watch.after uri span first).run uri span second := by
  induction first generalizing watch with
  | nil => rfl
  | cons move rest ih =>
    rw [List.cons_append, run_cons, run_cons, ih, List.append_assoc]
    rfl

theorem fire_of_due {due : Nat} (waits : watch.due = some due) (reached : due ≤ watch.now) :
    watch.fire = ({ watch with due := none }, (watch.text.map (due, ·)).toList) := by
  simp only [fire, waits, reached, if_true]

theorem fire_of_later (later : ∀ due, watch.due = some due → watch.now < due) :
    watch.fire = (watch, []) := by
  cases waits : watch.due with
  | none => simp only [fire, waits]
  | some due => simp only [fire, waits, Nat.not_le_of_lt (later due waits), if_false]

theorem later_or_due (watch : Watch) :
    (∀ due, watch.due = some due → watch.now < due) ∨
      ∃ due, watch.due = some due ∧ due ≤ watch.now := by
  cases waits : watch.due with
  | none => exact .inl nofun
  | some due =>
    by_cases reached : due ≤ watch.now
    · exact .inr ⟨due, rfl, reached⟩
    · refine .inl fun other same => ?_
      rw [← Option.some.inj same]
      exact Nat.lt_of_not_le reached

theorem fire_kept (watch : Watch) :
    watch.fire.1.now = watch.now ∧ watch.fire.1.text = watch.text := by
  rcases watch.later_or_due with later | ⟨due, waits, reached⟩
  · rw [fire_of_later later]
    exact ⟨rfl, rfl⟩
  · rw [fire_of_due waits reached]
    exact ⟨rfl, rfl⟩

theorem text_of_change {move : Move} (changes : move.changes uri = true) (text : Option String) :
    (move.text? uri text).isSome = text.isSome := by
  cases move with
  | pass time => cases changes
  | start request =>
    cases request with
    | change other new version =>
      have same : other = uri := of_decide_eq_true changes
      simp [Move.text?, same]
    | _ => cases changes

theorem text_of_undisturbed {move : Move} (undisturbed : move.disturbs uri = false)
    {text : Option String} (present : text.isSome) : (move.text? uri text).isSome := by
  cases move with
  | pass time => exact present
  | start request =>
    cases request with
    | «open» other new version =>
      simp only [Move.text?]
      split
      · rfl
      · exact present
    | change other new version =>
      have different : other ≠ uri := of_decide_eq_false undisturbed
      simpa [Move.text?, different] using present
    | close other =>
      have different : other ≠ uri := of_decide_eq_false undisturbed
      simpa [Move.text?, different] using present
    | _ => exact present

/-- After a move and what is then due, nothing is due. -/
theorem Ahead.step (ahead : watch.Ahead) (move : Move) : (watch.act uri span move).fire.1.Ahead := by
  have present : (watch.act uri span move).due.isSome → (watch.act uri span move).text.isSome := by
    intro some
    simp only [act] at some ⊢
    split at some
    · rename_i edits
      rw [text_of_change edits.1]
      exact edits.2
    · split at some
      · cases some
      · rename_i undisturbed
        exact text_of_undisturbed (Bool.eq_false_iff.mpr undisturbed) (ahead.present some)
  rcases (watch.act uri span move).later_or_due with later | ⟨due, waits, reached⟩
  · rw [fire_of_later later]
    exact ⟨later, present⟩
  · rw [fire_of_due waits reached]
    exact ⟨nofun, nofun⟩

end Watch

/-! ### The checks that follow from changes -/

section

variable {uri : Uri} {span : Nat} {earlier later : List Move} {move : Move}

theorem checkAfter?_zero (uri : Uri) (earlier later : List Move) :
    checkAfter? uri 0 earlier later = (textAfter uri earlier).map (elapsed earlier, ·) := by
  have none : within 0 later = [] := by
    cases later <;> rfl
  rw [checkAfter?, none, if_pos ⟨Nat.zero_le _, nofun⟩, List.append_nil]
  rfl

theorem within_cons (positive : 0 < span) :
    within span (move :: later) = move :: within (span - move.time) later := by
  cases span with
  | zero => cases positive
  | succ span => rfl

theorem checkAfter?_disturbed (positive : 0 < span) (disturbs : move.disturbs uri = true) :
    checkAfter? uri span earlier (move :: later) = none := by
  refine if_neg ?_
  rintro ⟨-, undisturbed⟩
  rw [within_cons positive] at undisturbed
  cases disturbs.symm.trans (undisturbed move (List.mem_cons_self ..))

/-- A move that does not disturb the document and does not take too long. -/
theorem checkAfter?_cons (undisturbed : move.disturbs uri = false) (positive : 0 < span)
    (short : move.time ≤ span) :
    checkAfter? uri span earlier (move :: later) =
      checkAfter? uri (span - move.time) (earlier ++ [move]) later := by
  have reached : span ≤ elapsed (move :: later) ↔ span - move.time ≤ elapsed later := by
    rw [elapsed]
    omega
  have time : elapsed (earlier ++ [move]) + (span - move.time) = elapsed earlier + span := by
    simp only [elapsed_append, elapsed]
    omega
  simp only [checkAfter?, within_cons positive, reached, time, List.forall_mem_cons, undisturbed,
    true_and, List.append_assoc, List.cons_append, List.nil_append]

/-- The time is over in the course of a move. -/
theorem checkAfter?_crossed (undisturbed : move.disturbs uri = false) (positive : 0 < span)
    (long : span ≤ move.time) :
    checkAfter? uri span earlier (move :: later) =
      (textAfter uri (earlier ++ [move])).map (elapsed earlier + span, ·) := by
  have none : within (span - move.time) later = [] := by
    rw [Nat.sub_eq_zero_of_le long]
    cases later <;> rfl
  rw [checkAfter?, within_cons positive, none, if_pos]
  refine ⟨?_, ?_⟩
  · rw [elapsed]
    omega
  · intro other member
    rw [List.mem_singleton.mp member]
    exact undisturbed

end

namespace Watch

variable {uri : Uri} {span : Nat} {watch : Watch}

/-- The check that is made if nothing disturbs the document until it has been at rest. -/
def pending? (uri : Uri) (watch : Watch) (earlier later : List Move) : Option (Nat × String) :=
  watch.due.bind fun due => checkAfter? uri (due - watch.now) earlier later

/-- What is known of a document after moves. -/
structure Follows (uri : Uri) (earlier : List Move) (watch : Watch) : Prop where
  now : watch.now = elapsed earlier
  text : watch.text = textAfter uri earlier

theorem Follows.act {earlier : List Move} (follows : watch.Follows uri earlier) (move : Move) :
    (watch.act uri span move).Follows uri (earlier ++ [move]) := by
  refine ⟨?_, ?_⟩
  · rw [elapsed_append, ← follows.now]
    rfl
  · rw [textAfter_append, ← follows.text]
    rfl

theorem Follows.fire {earlier : List Move} (follows : watch.Follows uri earlier) :
    watch.fire.1.Follows uri earlier :=
  ⟨watch.fire_kept.1.trans follows.now, watch.fire_kept.2.trans follows.text⟩

variable {earlier later : List Move} {move : Move}

theorem disturbs_of_changes (changes : move.changes uri = true) :
    move.disturbs uri = true ∧ move.time = 0 := by
  cases move with
  | pass time => cases changes
  | start request =>
    cases request with
    | change other text version => exact ⟨changes, rfl⟩
    | _ => cases changes

theorem pending?_disturbed (ahead : watch.Ahead) (disturbs : move.disturbs uri = true) :
    watch.pending? uri earlier (move :: later) = none := by
  refine Option.bind_eq_none_iff.mpr ?_
  intro due waits
  have positive := ahead.later due waits
  exact checkAfter?_disturbed (by omega) disturbs

theorem pending?_change (follows : watch.Follows uri earlier) (changes : move.changes uri = true)
    (present : watch.text.isSome) :
    (watch.act uri span move).fire.2 ++
        ((watch.act uri span move).fire.1.pending? uri (earlier ++ [move]) later).toList =
      (checkAfter? uri span (earlier ++ [move]) later).toList := by
  have acted : (watch.act uri span move).Follows uri (earlier ++ [move]) := follows.act move
  have still : (watch.act uri span move).now = watch.now := by
    rw [Watch.act, (disturbs_of_changes changes).2]
    rfl
  have due : (watch.act uri span move).due = some (watch.now + span) :=
    if_pos ⟨changes, present⟩
  cases span with
  | zero =>
    rw [fire_of_due due (Nat.le_of_eq still.symm), checkAfter?_zero, ← acted.text, ← acted.now, still]
    exact List.append_nil _
  | succ span =>
    have later : ∀ other, (watch.act uri (span + 1) move).due = some other →
        (watch.act uri (span + 1) move).now < other := by
      intro other waits
      have equal := Option.some.inj (due.symm.trans waits)
      omega
    rw [fire_of_later later, pending?, due, still, Option.bind_some, Nat.add_sub_cancel_left]
    rfl

/-- A move that does not disturb a document does not change when it will have been at rest. -/
theorem pending?_undisturbed (ahead : watch.Ahead) (follows : watch.Follows uri earlier)
    (undisturbed : move.disturbs uri = false) :
    (watch.act uri span move).fire.2 ++
        ((watch.act uri span move).fire.1.pending? uri (earlier ++ [move]) later).toList =
      (watch.pending? uri earlier (move :: later)).toList := by
  have acted : (watch.act uri span move).Follows uri (earlier ++ [move]) := follows.act move
  have due : (watch.act uri span move).due = watch.due := by
    have unchanged : ¬ (move.changes uri = true ∧ watch.text.isSome = true) := by
      rintro ⟨changes, -⟩
      cases (disturbs_of_changes changes).1.symm.trans undisturbed
    simp only [Watch.act, unchanged, if_false, undisturbed, Bool.false_eq_true]
  have now : (watch.act uri span move).now = watch.now + move.time := rfl
  rcases (watch.act uri span move).later_or_due with later | ⟨time, waits, reached⟩
  · rw [fire_of_later later, pending?, pending?, due]
    cases waits : watch.due with
    | none => rfl
    | some time =>
      have positive := ahead.later time waits
      have short := later time (due.trans waits)
      rw [Option.bind_some, Option.bind_some, checkAfter?_cons undisturbed (by omega) (by omega), now,
        Nat.sub_add_eq]
      rfl
  · have waiting := due.symm.trans waits
    have positive := ahead.later time waiting
    rw [fire_of_due waits reached, pending?, pending?, waiting, Option.bind_some,
      checkAfter?_crossed undisturbed (by omega) (by omega), ← acted.text, ← follows.now,
      Nat.add_sub_cancel' (Nat.le_of_lt positive)]
    exact List.append_nil _

/-- The checks that a watch leads to are those that follow from the changes, and the one that is
pending. -/
theorem run_eq (ahead : watch.Ahead) (follows : watch.Follows uri earlier) (later : List Move) :
    watch.run uri span later =
      (watch.pending? uri earlier later).toList ++ checksAtRest uri span earlier later := by
  induction later generalizing watch earlier with
  | nil =>
    have none : watch.pending? uri earlier [] = none := by
      refine Option.bind_eq_none_iff.mpr fun due waits => if_neg ?_
      have positive := ahead.later due waits
      rintro ⟨reached, -⟩
      rw [elapsed] at reached
      omega
    rw [none]
    rfl
  | cons move later ih =>
    have next : (watch.act uri span move).fire.1.Ahead := ahead.step move
    have moved : (watch.act uri span move).fire.1.Follows uri (earlier ++ [move]) :=
      (follows.act move).fire
    rw [run_cons, checksAtRest, ih next moved, ← List.append_assoc, ← List.append_assoc]
    congr 1
    rw [← follows.text]
    by_cases edits : move.changes uri = true ∧ watch.text.isSome = true
    · rw [if_pos edits, pending?_disturbed ahead (disturbs_of_changes edits.1).1]
      exact pending?_change follows edits.1 edits.2
    · rw [if_neg edits]
      cases disturbs : move.disturbs uri with
      | false =>
        rw [pending?_undisturbed ahead follows disturbs]
        exact (List.append_nil _).symm
      | true =>
        have none : (watch.act uri span move).due = none := by
          simp only [Watch.act, edits, if_false, disturbs, if_true]
        have later : ∀ due, (watch.act uri span move).due = some due →
            (watch.act uri span move).now < due := by
          intro due waits
          cases none.symm.trans waits
        rw [fire_of_later later, pending?_disturbed ahead disturbs, pending?, none]
        rfl

theorem after_kept (ahead : watch.Ahead) (follows : watch.Follows uri earlier) (moves : List Move) :
    (watch.after uri span moves).Ahead ∧
      (watch.after uri span moves).Follows uri (earlier ++ moves) := by
  induction moves generalizing watch earlier with
  | nil => exact ⟨ahead, (List.append_nil earlier).symm ▸ follows⟩
  | cons move rest ih =>
    rw [List.append_cons]
    exact ih (ahead.step move) (follows.act move).fire

/-! ### Bursts of changes -/

theorem run_change (present : watch.text.isSome) (text : String) (version : Int) (later : List Move)
    (positive : 0 < span) :
    watch.run uri span (.start (.change uri text version) :: later) =
      run uri span { watch with text := some text, due := some (watch.now + span) } later := by
  have acted : watch.act uri span (.start (.change uri text version)) =
      { watch with text := some text, due := some (watch.now + span) } := by
    obtain ⟨old, same⟩ := Option.isSome_iff_exists.mp present
    simp [act, Move.time, Move.text?, Move.changes, same]
  rw [run_cons, acted, fire_of_later]
  · rfl
  · intro due waits
    rw [← Option.some.inj waits]
    exact Nat.lt_add_of_pos_right positive

theorem run_pass {due time : Nat} (waits : watch.due = some due) (early : watch.now + time < due)
    (later : List Move) :
    watch.run uri span (.pass time :: later) =
      run uri span { watch with now := watch.now + time } later := by
  have acted : watch.act uri span (.pass time) = { watch with now := watch.now + time } := by
    simp [act, Move.time, Move.text?, Move.changes, Move.disturbs]
  rw [run_cons, acted, fire_of_later]
  · rfl
  · intro other same
    rw [← Option.some.inj (waits.symm.trans same)]
    exact early

theorem run_reached {due time : Nat} {text : String} (waits : watch.due = some due)
    (shown : watch.text = some text) (reached : due ≤ watch.now + time) :
    watch.run uri span [.pass time] = [(due, text)] := by
  have acted : watch.act uri span (.pass time) = { watch with now := watch.now + time } := by
    simp [act, Move.time, Move.text?, Move.changes, Move.disturbs]
  have fires : fire { watch with now := watch.now + time } = _ := fire_of_due waits reached
  rw [run_cons, acted, fires, shown]
  rfl

/-- Changes in rapid succession lead to one check, of the last text. -/
theorem run_burst (present : watch.text.isSome) (text : String) (version : Int)
    (edits : List (Nat × String × Int)) (rapid : ∀ edit ∈ edits, edit.1 < span) :
    watch.run uri span (.start (.change uri text version) :: (burst uri edits ++ [.pass span])) =
      [(watch.now + elapsed (burst uri edits) + span, (edits.map (·.2.1)).getLastD text)] := by
  induction edits generalizing watch text version with
  | nil =>
    cases span with
    | zero =>
      obtain ⟨old, same⟩ := Option.isSome_iff_exists.mp present
      simp [burst, run, act, fire, Move.time, Move.text?, Move.changes, same, elapsed]
    | succ span =>
      rw [run_change present text version _ (Nat.zero_lt_succ _)]
      exact run_reached rfl rfl (Nat.le_refl _)
  | cons edit edits ih =>
    obtain ⟨gap, new, newVersion⟩ := edit
    have close : gap < span := rapid _ (List.mem_cons_self ..)
    have further := fun edit member => rapid edit (List.mem_cons_of_mem _ member)
    have early : watch.now + gap < watch.now + span := Nat.add_lt_add_left close _
    have time : elapsed (burst uri ((gap, new, newVersion) :: edits)) =
        gap + (0 + elapsed (burst uri edits)) := rfl
    let waiting : Watch := { watch with text := some text, due := some (watch.now + span) }
    let passed : Watch := { waiting with now := waiting.now + gap }
    calc
      _ = waiting.run uri span (burst uri ((gap, new, newVersion) :: edits) ++ [.pass span]) :=
        run_change present text version _ (Nat.lt_of_le_of_lt (Nat.zero_le _) close)
      _ = passed.run uri span
          (.start (.change uri new newVersion) :: (burst uri edits ++ [.pass span])) :=
        @run_pass uri span waiting _ gap rfl early _
      _ = _ := ih rfl new newVersion further
      _ = _ := by
        rw [time, List.map_cons, List.getLastD_cons, Nat.zero_add, ← Nat.add_assoc watch.now]

theorem run_absent (absent : watch.text = none) (text : String) (version : Int) (time : Nat) :
    watch.run uri span [.start (.change uri text version), .pass time] = [] := by
  simp [run, act, fire, Move.time, Move.text?, Move.changes, Move.disturbs, absent]

end Watch

end LanguageServer.Scenario
