import LanguageServer.Proofs.Session.Turn

/-! Where validations stand. An impulse moves at most one validation that is under way, apart from
those that it begins. -/

namespace LanguageServer.Session

/-- Where a validation stands that has not come to its end. -/
inductive Standing
  /-- It has yet to look at its document. -/
  | preparing (uri : Uri) (cause : Cause)
  /-- It waits for the compiler. -/
  | checking (check : Check)
  deriving DecidableEq

def Standing.uri : Standing → Uri
  | .preparing uri _ => uri
  | .checking check => check.uri

/-- Where the validation stands that an operation is, if it is one. -/
def Stage.standing? : Stage → Option Standing
  | .ready uri cause => some (.preparing uri cause)
  | .fetching (.validate uri cause) => some (.preparing uri cause)
  | .checking check => some (.checking check)
  | _ => none

def standing? (session : Session) (id : OperationId) : Option Standing :=
  (session.operations.get? id).bind Stage.standing?

theorem standing?_eq_checking {session : Session} {id : OperationId} {check : Check} :
    session.standing? id = some (.checking check) ↔
      session.operations.get? id = some (.checking check) := by
  unfold standing?
  cases session.operations.get? id with
  | none => simp
  | some stage =>
    cases stage with
    | fetching task => cases task <;> simp [Stage.standing?]
    | _ => simp [Stage.standing?]

@[simp]
theorem standing?_suspend_self (session : Session) (id : OperationId) (stage : Stage) :
    (session.suspend id stage).standing? id = stage.standing? := by
  simp [standing?, suspend]

@[simp]
theorem standing?_finish_self (session : Session) (id : OperationId) :
    (session.finish id).standing? id = none := by
  simp [standing?, finish]

/-! ### What an operation leaves alone -/

/-- A stage without the number of validations that it waits for. -/
def Stage.outline : Stage → Stage
  | .revalidating _ count => .revalidating 0 count
  | stage => stage

@[simp]
theorem Stage.standing?_outline (stage : Stage) : stage.outline.standing? = stage.standing? := by
  cases stage <;> rfl

def outline? (session : Session) (id : OperationId) : Option Stage :=
  (session.operations.get? id).map Stage.outline

theorem standing?_eq_of_outline {session other : Session} {id : OperationId}
    (same : session.outline? id = other.outline? id) :
    session.standing? id = other.standing? id := by
  have viaOutline : ∀ session : Session,
      session.standing? id = (session.outline? id).bind Stage.standing? := by
    intro session
    simp only [standing?, outline?]
    cases session.operations.get? id <;> simp
  rw [viaOutline, viaOutline, same]

/-- A part of an operation leaves all other operations as they were, except that a change of the
configuration may wait for fewer validations. -/
structure Touches (session : Session) (id : OperationId) (result : Session) : Prop where
  others : ∀ other, other ≠ id → result.outline? other = session.outline? other
  number : result.nextOperation = session.nextOperation

namespace Touches

variable {session middle result : Session} {id : OperationId}

theorem of_eq (operations : result.operations = session.operations)
    (number : result.nextOperation = session.nextOperation) : Touches session id result := by
  refine ⟨?_, number⟩
  intro other _
  rw [outline?, operations, ← outline?]

theorem trans (first : Touches session id middle) (second : Touches middle id result) :
    Touches session id result := by
  refine ⟨?_, second.number.trans first.number⟩
  intro other different
  rw [second.others other different, first.others other different]

theorem standing (touches : Touches session id result) {other : OperationId}
    (different : other ≠ id) : result.standing? other = session.standing? other :=
  standing?_eq_of_outline (touches.others other different)

end Touches

theorem touches_suspend (session : Session) (id : OperationId) (stage : Stage) :
    Touches session id (session.suspend id stage) := by
  refine ⟨?_, rfl⟩
  intro other different
  simp only [outline?, suspend, Table.get?_put_of_ne _ _ different]

theorem touches_finish (session : Session) (id : OperationId) :
    Touches session id (session.finish id) := by
  refine ⟨?_, rfl⟩
  intro other different
  simp only [outline?, finish, Table.get?_erase_of_ne _ different]

theorem touches_resolve (host : Host) (session : Session) (id : OperationId)
    (settings : Settings) : Touches session id (session.resolve host settings).1 := by
  unfold resolve
  dsimp only
  split <;> exact .of_eq rfl rfl

theorem touches_alarm (session : Session) (id : OperationId) (detail : String) :
    Touches session id (session.alarm detail).1 := by
  unfold alarm
  split <;> exact .of_eq rfl rfl

theorem touches_keep (session : Session) (id : OperationId) (uri : Uri) (settings : Settings) :
    Touches session id (session.keep uri settings) := by
  unfold keep
  split <;> exact .of_eq rfl rfl

/-- A change of the configuration waits for one validation less, which its outline does not show. -/
theorem outline?_release (session : Session) (change id : OperationId) :
    (session.release change).1.outline? id = session.outline? id := by
  unfold release
  split
  · rename_i waiting count waits
    by_cases same : id = change
    · subst same
      simp [outline?, suspend, waits, Stage.outline]
    · exact (touches_suspend session change _).others id same
  · rfl

theorem number_release (session : Session) (change : OperationId) :
    (session.release change).1.nextOperation = session.nextOperation := by
  unfold release
  split <;> rfl

/-! ### Ends of operations -/

/-- A part of an operation after which it is no validation that is under way. -/
structure Clears (session : Session) (id : OperationId) (result : Session) : Prop
    extends Touches session id result where
  gone : result.standing? id = none

theorem Touches.clears {session middle result : Session} {id : OperationId}
    (first : Touches session id middle) (second : Clears middle id result) :
    Clears session id result :=
  ⟨first.trans second.toTouches, second.gone⟩

theorem clears_finish (session : Session) (id : OperationId) :
    Clears session id (session.finish id) :=
  ⟨touches_finish session id, standing?_finish_self session id⟩

theorem clears_conclude (session : Session) (id : OperationId) (cause : Cause)
    (outcome : Outcome) : Clears session id (session.conclude id cause outcome).1 := by
  cases cause with
  | change change =>
    have finished := clears_finish session id
    refine ⟨⟨?_, number_release (session.finish id) change⟩, ?_⟩
    · intro other different
      exact (outline?_release (session.finish id) change other).trans
        (finished.others other different)
    · exact (standing?_eq_of_outline (outline?_release (session.finish id) change id)).trans
        finished.gone
  | asked => exact clears_finish session id
  | rest => exact clears_finish session id

theorem clears_checked (session : Session) (id : OperationId) (check : Check)
    (ending : Compiler.Ending) : Clears session id (session.checked id check ending).1 := by
  have discarded : Touches session id (session.discard check.scratch) := .of_eq rfl rfl
  unfold checked
  dsimp only
  split
  · exact (discarded.trans (touches_alarm _ id _)).clears (clears_conclude _ id _ .failed)
  · split
    · rename_i found _ _
      exact discarded.clears
        (clears_conclude _ id _ (.published (found.take check.limit).length))
    · exact discarded.clears (clears_conclude _ id _ .stale)

theorem clears_query (host : Host) (session : Session) (id : OperationId) (inquiry : Inquiry)
    (settings : Settings) : Clears session id (session.query host id inquiry settings).1 := by
  have resolved := touches_resolve host session id settings
  unfold query
  dsimp only
  split
  · refine ⟨resolved.trans (Touches.trans ?_ (touches_suspend ..)), standing?_suspend_self ..⟩
    exact .of_eq rfl rfl
  · exact resolved.clears (clears_finish ..)

theorem clears_ask (host : Host) (session : Session) (id : OperationId) (uri : Uri)
    (question : Question) : Clears session id (session.ask host id uri question).1 := by
  unfold ask
  split
  · unfold inquire
    split
    · exact clears_query ..
    · exact ⟨touches_suspend .., standing?_suspend_self ..⟩
  · exact clears_finish ..

theorem clears_answered (session : Session) (id : OperationId) (inquiry : Inquiry)
    (executable scratch : Path) (ending : Compiler.Ending) :
    Clears session id (session.answered id inquiry executable scratch ending).1 := by
  have discarded : Touches session id (session.discard scratch) := .of_eq rfl rfl
  unfold answered
  dsimp only
  split
  · exact discarded.clears (clears_finish ..)
  · split
    · exact (discarded.trans (touches_alarm _ id _)).clears (clears_finish ..)
    · exact discarded.clears (clears_finish ..)

/-! ### Validations -/

theorem touches_check (host : Host) (session : Session) (id : OperationId) (uri : Uri)
    (cause : Cause) (settings : Settings) :
    Touches session id (session.check host id uri cause settings).1 := by
  cases found : host.locate settings with
  | none =>
    rw [check_skipped host session id uri cause settings (.inl found)]
    exact (touches_resolve ..).trans (clears_conclude _ id cause .skipped).toTouches
  | some executable =>
    cases present : session.documents.get? uri with
    | none =>
      rw [check_skipped host session id uri cause settings (.inr present)]
      exact (touches_resolve ..).trans (clears_conclude _ id cause .skipped).toTouches
    | some document =>
      have drawn : Touches session id
          ({ session with compiler := some executable }.drawRevision uri).1 := .of_eq rfl rfl
      cases made : host.scratch id with
      | none =>
        rw [check_failed host session id uri cause settings executable document found present made]
        exact drawn.trans (clears_conclude _ id cause .failed).toTouches
      | some file =>
        rw [check_called host session id uri cause settings executable file document found present
          made]
        refine drawn.trans (Touches.trans ?_ (touches_suspend ..))
        exact .of_eq rfl rfl

theorem touches_validate (host : Host) (session : Session) (id : OperationId) (uri : Uri)
    (cause : Cause) : Touches session id (session.validate host id uri cause).1 := by
  unfold validate
  split
  · exact touches_check ..
  · exact touches_suspend ..

theorem standing?_validate_self {host : Host} {session : Session} {id : OperationId} {uri : Uri}
    {cause : Cause} (unknown : session.beginning? host id uri cause = none) :
    (session.validate host id uri cause).1.standing? id = some (.preparing uri cause) := by
  rw [validate_of_not_beginning unknown]
  exact standing?_suspend_self ..

/-! ### Changes of the configuration -/

theorem number_fanOut (session : Session) (change : OperationId) (uris : List Uri) :
    (session.fanOut change uris).1.nextOperation = session.nextOperation + uris.length := by
  induction uris generalizing session with
  | nil => rfl
  | cons uri rest ih =>
    have counted := ih (session.draw.1.suspend session.nextOperation (.ready uri (.change change)))
    rw [fanOut, List.length_cons, Nat.add_comm rest.length, ← Nat.add_assoc]
    exact counted

theorem fanOut_below (session : Session) (change : OperationId) (uris : List Uri)
    {id : OperationId} (below : id < session.nextOperation) :
    (session.fanOut change uris).1.operations.get? id = session.operations.get? id := by
  induction uris generalizing session with
  | nil => rfl
  | cons uri rest ih =>
    have kept := ih (session.draw.1.suspend session.nextOperation (.ready uri (.change change)))
      (Nat.lt_succ_of_lt below)
    rw [fanOut]
    refine kept.trans ?_
    exact Table.get?_put_of_ne _ _ (Nat.ne_of_lt below)

/-- A validation is made ready for each document, in their order. -/
theorem fanOut_above (session : Session) (change : OperationId) (uris : List Uri) (place : Nat) :
    (session.fanOut change uris).1.operations.get? (session.nextOperation + place) =
      (uris[place]?.map fun uri => Stage.ready uri (.change change)).or
        (session.operations.get? (session.nextOperation + place)) := by
  induction uris generalizing session place with
  | nil => rfl
  | cons uri rest ih =>
    rw [fanOut]
    cases place with
    | zero =>
      refine (fanOut_below _ change rest (Nat.lt_succ_self session.nextOperation)).trans ?_
      exact Table.get?_put_self ..
    | succ place =>
      have further := ih (session.draw.1.suspend session.nextOperation (.ready uri (.change change)))
        place
      have same : session.nextOperation + 1 + place = session.nextOperation + (place + 1) := by
        rw [Nat.add_assoc, Nat.add_comm 1]
      simp only [draw, suspend, same] at further
      refine further.trans ?_
      rw [Table.get?_put_of_ne _ _ (Nat.ne_of_gt (Nat.lt_add_of_pos_right (Nat.succ_pos place)))]
      rfl

end LanguageServer.Session
