import LanguageServer.Proofs.Session.Deed

/-! Files for the compiler. An operation has a file from the moment at which it calls the compiler to
the one at which its call ends or nobody waits for it any more. The main result says that the files
which exist are those of the calls in flight, each with the text that its document had when the call
began. -/

namespace LanguageServer.Session

/-! ### Calls in flight -/

/-- A call of the compiler. -/
structure Invocation where
  id : OperationId
  executable : Path
  arguments : List String
  contents : String
  deriving DecidableEq

/-- The file that a call is about: it comes after the mode of the call. -/
def Invocation.file (call : Invocation) : Path :=
  call.arguments.getD 1 ""

def Effect.call? : Effect → Option Invocation
  | .call id executable arguments contents => some ⟨id, executable, arguments, contents⟩
  | _ => none

def invocations (effects : List Effect) : List Invocation :=
  effects.filterMap Effect.call?

def Moment.calls (moment : Moment) : List Invocation :=
  invocations moment.effects

/-- Whether the call of an operation ends with an impulse, or nobody waits for it any more. -/
def Impulse.stops : Impulse → OperationId → Bool
  | .input _ (.ended other _), id => other == id
  | .input _ (.abandon other), id => other == id
  | _, _ => false

/-- The calls that have been made in a run and have not come to their end, in the order in which they
were made. -/
def inFlight (run : List Moment) : List Invocation :=
  run.foldl (fun calls moment =>
    calls.filter (fun call => !moment.impulse.stops call.id) ++ moment.calls) []

theorem inFlight_append (run : List Moment) (moment : Moment) :
    inFlight (run ++ [moment]) =
      (inFlight run).filter (fun call => !moment.impulse.stops call.id) ++ moment.calls := by
  rw [inFlight, List.foldl_append]
  rfl

@[simp]
theorem invocations_nil : invocations [] = [] := rfl

@[simp]
theorem invocations_append (first second : List Effect) :
    invocations (first ++ second) = invocations first ++ invocations second :=
  List.filterMap_append

theorem invocations_of_idle {effects : List Effect} (idle : Idle effects) :
    invocations effects = [] := by
  apply List.filterMap_eq_nil_iff.mpr
  intro effect membership
  have asksNothing := idle effect membership
  cases effect with
  | call id executable arguments contents => exact absurd trivial asksNothing
  | _ => rfl

/-! ### Files of operations -/

def Stage.file? : Stage → Option Path
  | .checking check => some check.scratch
  | .asking _ _ scratch => some scratch
  | _ => none

/-- The document that an operation is about, if it is about one. -/
def Stage.uri? : Stage → Option Uri
  | .ready uri _ => some uri
  | .fetching task => some task.uri
  | .checking check => some check.uri
  | .asking inquiry _ _ => some inquiry.uri
  | _ => none

def file? (session : Session) (id : OperationId) : Option Path :=
  (session.operations.get? id).bind Stage.file?

def subject? (session : Session) (id : OperationId) : Option Uri :=
  (session.operations.get? id).bind Stage.uri?

theorem file?_of_stage {session : Session} {id : OperationId} {stage : Stage}
    (waits : session.operations.get? id = some stage) : session.file? id = stage.file? := by
  rw [file?, waits]
  rfl

theorem Numbered.file? {session : Session} (numbered : session.Numbered) {id : OperationId}
    (undrawn : session.nextOperation ≤ id) : session.file? id = none := by
  rw [Session.file?, numbered id undrawn]
  rfl

section Tables

variable {session result : Session} {id : OperationId}

theorem file?_of_operations (same : result.operations = session.operations) (other : OperationId) :
    result.file? other = session.file? other := by
  rw [file?, same, ← file?]

theorem file?_put (stage : Stage) (entered : result.operations = session.operations.put id stage)
    (other : OperationId) :
    result.file? other = if other = id then stage.file? else session.file? other := by
  rw [file?, entered, Table.get?_put]
  split <;> rfl

theorem file?_erase (gone : result.operations = session.operations.erase id) (other : OperationId) :
    result.file? other = if other = id then none else session.file? other := by
  rw [file?, gone, Table.get?_erase]
  split <;> rfl

theorem Stage.file?_released (stage : Stage) : stage.released.file? = stage.file? := by
  cases stage <;> rfl

/-- A validation that has ended leaves all others with their files. -/
theorem file?_settle (cause : Cause)
    (ends : result.operations = cause.settle (session.operations.erase id)) (other : OperationId) :
    result.file? other = if other = id then none else session.file? other := by
  have settled : result.file? other =
      ((session.operations.erase id).get? other).bind Stage.file? := by
    rw [file?, ends, get?_settle]
    split
    · cases (session.operations.erase id).get? other with
      | none => rfl
      | some stage => exact Stage.file?_released stage
    · rfl
  rw [settled, Table.get?_erase]
  split <;> rfl

/-- An operation that has no file leaves all as they are when it comes to its end. -/
theorem file?_of_without (without : session.file? id = none)
    (gone : ∀ other, result.file? other = if other = id then none else session.file? other)
    (other : OperationId) : result.file? other = session.file? other := by
  rw [gone]
  split
  · rename_i same
    rw [same, without]
  · rfl

end Tables

/-! ### Parts that leave the files alone -/

@[simp]
theorem scratch_resolve (host : Host) (session : Session) (settings : Settings) :
    (session.resolve host settings).1.scratch = session.scratch := by
  unfold resolve
  dsimp only
  split <;> rfl

@[simp]
theorem scratch_alarm (session : Session) (detail : String) :
    (session.alarm detail).1.scratch = session.scratch := by
  unfold alarm
  split <;> rfl

@[simp]
theorem scratch_keep (session : Session) (uri : Uri) (settings : Settings) :
    (session.keep uri settings).scratch = session.scratch := by
  unfold keep
  split <;> rfl

@[simp]
theorem scratch_conclude (session : Session) (id : OperationId) (cause : Cause)
    (outcome : Outcome) : (session.conclude id cause outcome).1.scratch = session.scratch := by
  cases cause with
  | asked => rfl
  | rest => rfl
  | change change =>
    simp only [conclude, release]
    split <;> rfl

@[simp]
theorem scratch_fanOut (session : Session) (change : OperationId) (uris : List Uri) :
    (session.fanOut change uris).1.scratch = session.scratch := by
  induction uris generalizing session with
  | nil => rfl
  | cons uri rest ih =>
    unfold fanOut
    exact ih _

theorem file?_fanOut {session : Session} (numbered : session.Numbered) (change : OperationId)
    (uris : List Uri) (id : OperationId) :
    (session.fanOut change uris).1.file? id = session.file? id := by
  rcases Nat.lt_or_ge id session.nextOperation with below | above
  · rw [file?, fanOut_below session change uris below, ← file?]
  · obtain ⟨place, rfl⟩ := Nat.exists_eq_add_of_le above
    rw [numbered.file? above, file?, fanOut_above, numbered _ above]
    cases uris[place]? with
    | none => rfl
    | some uri => rfl

/-! ### Operations that have no file -/

/-- What an operation that has no file does with a session: it makes one and calls the compiler, or it
leaves the files alone. -/
inductive Files (host : Host) (base : Session) (id : OperationId) (result : Session)
    (effects : List Effect) : Prop
  | makes (call : Invocation) (uri : Uri) (document : Document) (same : call.id = id)
      (found : ∃ settings, host.locate settings = some call.executable)
      (made : host.scratch id = some call.file) (calls : invocations effects = [call])
      (files : result.scratch = base.scratch.put call.file call.contents)
      (holds : ∀ other,
        result.file? other = if other = id then some call.file else base.file? other)
      (about : result.subject? id = some uri)
      (present : result.documents.get? uri = some document) (text : document.text = call.contents)
  | keeps (silent : invocations effects = []) (files : result.scratch = base.scratch)
      (holds : ∀ other, result.file? other = base.file? other)

section Parts

variable (host : Host) (base : Session) {id : OperationId}

theorem files_of_check (uri : Uri) (cause : Cause) (settings : Settings)
    (without : base.file? id = none) :
    Files host base id (base.check host id uri cause settings).1
      (base.check host id uri cause settings).2 := by
  have skipped : (host.locate settings = none ∨ base.documents.get? uri = none) →
      Files host base id (base.check host id uri cause settings).1
        (base.check host id uri cause settings).2 := by
    intro missing
    rw [check_skipped host base id uri cause settings missing]
    refine .keeps ?_ ?_ ?_
    · rw [invocations_append, invocations_of_idle (idle_resolve _ _ _),
        invocations_of_idle (idle_conclude _ _ _ _), List.append_nil]
    · rw [scratch_conclude, scratch_resolve]
    · refine file?_of_without without (file?_settle cause ?_)
      rw [operations_conclude, operations_resolve]
  cases found : host.locate settings with
  | none => exact skipped (.inl found)
  | some executable =>
    cases present : base.documents.get? uri with
    | none => exact skipped (.inr present)
    | some document =>
      cases made : host.scratch id with
      | none =>
        rw [check_failed host base id uri cause settings executable document found present made]
        refine .keeps (invocations_of_idle (idle_conclude _ _ _ _)) ?_ ?_
        · rw [scratch_conclude]
          rfl
        · refine file?_of_without without (file?_settle cause ?_)
          rw [operations_conclude]
          rfl
      | some file =>
        rw [check_called host base id uri cause settings executable file document found present
          made]
        refine .makes ⟨id, executable, Compiler.checkArguments file, document.text⟩ uri document rfl
          ⟨settings, found⟩ made rfl rfl (file?_put (.checking ⟨uri, cause, base.revision + 1,
            document.version, settings.maxDiagnostics, executable, file⟩) rfl) ?_ present rfl
        simp [subject?, suspend, Stage.uri?]

theorem files_of_validate (uri : Uri) (cause : Cause) (without : base.file? id = none) :
    Files host base id (base.validate host id uri cause).1 (base.validate host id uri cause).2 := by
  unfold validate
  split
  · exact files_of_check host base uri cause _ without
  · refine .keeps rfl rfl ?_
    exact file?_of_without without (file?_put (.fetching _) rfl)

theorem files_of_query (inquiry : Inquiry) (settings : Settings) (without : base.file? id = none) :
    Files host base id (base.query host id inquiry settings).1
      (base.query host id inquiry settings).2 := by
  have ends : ∀ resolved : Session, resolved.operations = base.operations →
      resolved.scratch = base.scratch → ∀ notices, invocations notices = [] →
      Files host base id (resolved.reply id none).1 (notices ++ (resolved.reply id none).2) := by
    intro resolved operations files notices silent
    refine .keeps ?_ files ?_
    · rw [invocations_append, silent, invocations_of_idle (idle_reply _ _ _), List.append_nil]
    · apply file?_of_without without
      apply file?_erase
      exact congrArg (Table.erase · id) operations
  have resolved := operations_resolve host base settings
  have stored := scratch_resolve host base settings
  have documents := resolve_documents host base settings
  have sought := resolve_second host base settings
  have silent := invocations_of_idle (idle_resolve host base settings)
  unfold query
  generalize base.resolve host settings = search at resolved stored documents sought silent ⊢
  obtain ⟨after, found, notices⟩ := search
  dsimp only at resolved stored documents sought silent ⊢
  split
  · rename_i executable document file present made
    refine .makes
      ⟨id, executable, Compiler.queryArguments file inquiry.line inquiry.column, document.text⟩
      inquiry.uri document rfl ⟨settings, sought.symm⟩ made ?_ ?_
      (file?_put (.asking inquiry executable file) ?_) ?_ present rfl
    · rw [invocations_append, silent]
      rfl
    · exact congrArg (Table.put · file document.text) stored
    · exact congrArg (Table.put · id _) resolved
    · simp [subject?, suspend, Stage.uri?]
  · exact ends after resolved stored notices silent

theorem files_of_ask (uri : Uri) (question : Question) (without : base.file? id = none) :
    Files host base id (base.ask host id uri question).1 (base.ask host id uri question).2 := by
  unfold ask
  split
  · unfold inquire
    split
    · exact files_of_query host base _ _ without
    · refine .keeps rfl rfl ?_
      exact file?_of_without without (file?_put (.fetching _) rfl)
  · refine .keeps (invocations_of_idle (idle_reply _ _ _)) rfl ?_
    exact file?_of_without without (file?_erase rfl)

theorem files_of_reconfigured (settings : Settings) (numbered : base.Numbered)
    (drawn : id < base.nextOperation) (without : base.file? id = none) :
    Files host base id (base.reconfigured host id settings).1
      (base.reconfigured host id settings).2 := by
  unfold reconfigured
  dsimp only
  split
  · exact .keeps rfl rfl (file?_of_without without (file?_erase rfl))
  · split
    · exact .keeps rfl rfl (file?_of_without without (file?_erase rfl))
    · rename_i differs some
      have moved : Touches base id { base with compiler := host.locate settings } := .of_eq rfl rfl
      have waiting := fun stage => numbered.touches drawn (moved.trans (touches_suspend _ id stage))
      refine .keeps (invocations_of_idle (idle_fanOut _ _ _)) (scratch_fanOut ..) ?_
      intro other
      rw [file?_fanOut (waiting _)]
      exact file?_of_without without (file?_put (.revalidating _ _) rfl) other

end Parts

/-! ### What a moment does -/

/-- What a moment does to the files of operations. -/
inductive Moment.Keeping (moment : Moment) : Prop
  /-- An operation makes a file with the text of its document, and calls the compiler. -/
  | makes (host : Host) (input : Input) (call : Invocation) (uri : Uri) (document : Document)
      (now : moment.impulse = .input host input)
      (unstopped : ∀ id, moment.impulse.stops id = false)
      (found : ∃ settings, host.locate settings = some call.executable)
      (made : host.scratch call.id = some call.file) (calls : moment.calls = [call])
      (without : moment.session.file? call.id = none)
      (files : moment.after.scratch = moment.session.scratch.put call.file call.contents)
      (holds : ∀ id,
        moment.after.file? id = if id = call.id then some call.file else moment.session.file? id)
      (about : moment.after.subject? call.id = some uri)
      (present : moment.after.documents.get? uri = some document)
      (text : document.text = call.contents)
  /-- The file of a call is removed. -/
  | frees (id : OperationId) (file : Path) (stops : ∀ other, moment.impulse.stops other = (id == other))
      (silent : moment.calls = []) (had : moment.session.file? id = some file)
      (files : moment.after.scratch = moment.session.scratch.erase file)
      (holds : ∀ other,
        moment.after.file? other = if other = id then none else moment.session.file? other)
  | keeps (unused : ∀ id, moment.impulse.stops id = true → moment.session.file? id = none)
      (silent : moment.calls = []) (files : moment.after.scratch = moment.session.scratch)
      (holds : ∀ id, moment.after.file? id = moment.session.file? id)

namespace Moment

theorem keeping_of_files {moment : Moment} {host : Host} {input : Input} (base : Session)
    {id : OperationId} (now : moment.impulse = .input host input)
    (unstopped : ∀ id, moment.impulse.stops id = false)
    (operations : base.operations = moment.session.operations)
    (scratch : base.scratch = moment.session.scratch) (without : moment.session.file? id = none)
    (does : Files host base id moment.after moment.effects) : moment.Keeping := by
  have held := file?_of_operations operations
  cases does with
  | makes call uri document same found made calls files holds about present text =>
    subst same
    refine .makes host input call uri document now unstopped found made calls without
      (scratch ▸ files) ?_ about present text
    intro other
    rw [holds, held]
  | keeps silent files holds =>
    refine .keeps ?_ silent (files.trans scratch) ?_
    · intro other stops
      rw [unstopped] at stops
      cases stops
    · intro other
      rw [holds, held]

theorem keeping_of_same {moment : Moment}
    (unused : ∀ id, moment.impulse.stops id = true → moment.session.file? id = none)
    (silent : moment.calls = []) (files : moment.after.scratch = moment.session.scratch)
    (operations : moment.after.operations = moment.session.operations) : moment.Keeping :=
  .keeps unused silent files (file?_of_operations operations)

theorem keeping_start (session : Session) (numbered : session.Numbered) (host : Host)
    (request : Request) : (⟨session, .input host (.start request)⟩ : Moment).Keeping := by
  have without : session.file? session.nextOperation = none := numbered.file? (Nat.le_refl _)
  have unstopped : ∀ id, (Impulse.input host (.start request)).stops id = false := fun _ => rfl
  cases request with
  | «open» uri text version =>
    by_cases known : session.validated.contains uri = true
    · refine keeping_of_same (by simp [Impulse.stops]) ?_ ?_ ?_ <;>
        simp only [calls, after, effects, react, step, start, opened, draw, known, if_true]
      rfl
    · have files := files_of_validate host (session.prepared (.start (.open uri text version))) uri
        .asked without
      refine keeping_of_files (session.prepared (.start (.open uri text version))) rfl unstopped rfl
        rfl without ?_
      simp only [after, effects, react, step, start, opened, draw, known, Bool.false_eq_true,
        if_false]
      exact files
  | change uri text version =>
    refine keeping_of_same (by simp [Impulse.stops]) ?_ ?_ ?_ <;>
      simp only [calls, after, effects, react, step, start, changed, draw] <;>
      cases session.documents.get? uri <;> rfl
  | close uri => exact keeping_of_same (by simp [Impulse.stops]) rfl rfl rfl
  | shutdown => exact keeping_of_same (by simp [Impulse.stops]) rfl rfl rfl
  | validate uri =>
    exact keeping_of_files session.draw.1 rfl unstopped rfl rfl without
      (files_of_validate host session.draw.1 uri .asked without)
  | configure settings =>
    by_cases pulls : session.pulls = true
    · refine .keeps (by simp [Impulse.stops]) ?_ ?_ ?_
      · simp only [calls, effects, react, step, start, configure, draw, pulls, if_true]
        rfl
      · simp only [after, react, step, start, configure, draw, pulls, if_true]
        rfl
      · refine file?_of_without without (file?_put (.reconfiguring (settings.getD session.general)) ?_)
        simp only [after, react, step, start, configure, draw, pulls, if_true]
        rfl
    · have drawn : session.draw.1.Numbered := numbered.draw
      refine keeping_of_files { session.draw.1 with
        general := settings.getD session.general, settings := ∅ } rfl unstopped rfl rfl without ?_
      simp only [after, effects, react, step, start, configure, draw, pulls, Bool.false_eq_true,
        if_false]
      exact files_of_reconfigured host _ _ drawn (Nat.lt_succ_self _) without
  | ask uri question =>
    exact keeping_of_files session.draw.1 rfl unstopped rfl rfl without
      (files_of_ask host session.draw.1 uri question without)

theorem keeping_settings (session : Session) (numbered : session.Numbered) (host : Host)
    (id : OperationId) (answer : Option Json) :
    (⟨session, .input host (.settings id answer)⟩ : Moment).Keeping := by
  have unstopped : ∀ other, (Impulse.input host (.settings id answer)).stops other = false :=
    fun _ => rfl
  cases waits : session.operations.get? id with
  | none => refine keeping_of_same (by simp [Impulse.stops]) ?_ ?_ ?_ <;>
      simp [calls, after, effects, react, step, waits]
  | some stage =>
    have file := file?_of_stage waits
    cases stage with
    | fetching task =>
      have keeps := operations_keep session task.uri (layered session.general answer)
      have stored := scratch_keep session task.uri (layered session.general answer)
      have without := (file?_of_operations keeps id).trans file
      refine keeping_of_files _ rfl unstopped keeps stored file ?_
      cases task with
      | validate uri cause =>
        simp only [after, effects, react, step, waits, informed, Task.uri]
        exact files_of_check host _ uri cause _ without
      | inquire inquiry =>
        simp only [after, effects, react, step, waits, informed, Task.uri]
        exact files_of_query host _ inquiry _ without
    | reconfiguring general =>
      refine keeping_of_files session rfl unstopped rfl rfl file ?_
      simp only [after, effects, react, step, waits]
      exact files_of_reconfigured host session _ numbered (numbered.below waits) file
    | _ => refine keeping_of_same (by simp [Impulse.stops]) ?_ ?_ ?_ <;>
        simp [calls, after, effects, react, step, waits]

theorem keeping_rested (session : Session) (numbered : session.Numbered) (host : Host) (uri : Uri)
    (ticket : Nat) : (⟨session, .input host (.rested uri ticket)⟩ : Moment).Keeping := by
  have without : session.file? session.nextOperation = none := numbered.file? (Nat.le_refl _)
  by_cases pending : session.timers.pending.get? uri = some ticket
  · have files := files_of_validate host (session.prepared (.rested uri ticket)) uri .rest without
    refine keeping_of_files (session.prepared (.rested uri ticket)) rfl (fun _ => rfl) rfl rfl
      without ?_
    simp only [after, effects, react, step, Debounce.Register.claim?, pending, if_true]
    exact files
  · refine keeping_of_same (by simp [Impulse.stops]) ?_ ?_ ?_ <;>
      simp [calls, after, effects, react, step, Debounce.Register.claim?, pending]

theorem keeping_turn (session : Session) (host : Host) (id : OperationId) :
    (⟨session, .input host (.turn id)⟩ : Moment).Keeping := by
  cases waits : session.operations.get? id with
  | none => refine keeping_of_same (by simp [Impulse.stops]) ?_ ?_ ?_ <;>
      simp [calls, after, effects, react, step, waits]
  | some stage =>
    have file := file?_of_stage waits
    cases stage with
    | ready uri cause =>
      refine keeping_of_files session rfl (fun _ => rfl) rfl rfl file ?_
      simp only [after, effects, react, step, waits]
      exact files_of_validate host session uri cause file
    | revalidating waiting count =>
      cases waiting with
      | zero =>
        refine .keeps (by simp [Impulse.stops]) ?_ ?_ ?_
        · simp only [calls, effects, react, step, waits]
          rfl
        · simp only [after, react, step, waits]
          rfl
        · refine file?_of_without file (file?_erase ?_)
          simp only [after, react, step, waits]
          rfl
      | succ waiting => refine keeping_of_same (by simp [Impulse.stops]) ?_ ?_ ?_ <;>
          simp [calls, after, effects, react, step, waits]
    | _ => refine keeping_of_same (by simp [Impulse.stops]) ?_ ?_ ?_ <;>
        simp [calls, after, effects, react, step, waits]

theorem scratch_checked (session : Session) (id : OperationId) (check : Check)
    (ending : Compiler.Ending) :
    (session.checked id check ending).1.scratch = session.scratch.erase check.scratch := by
  unfold checked
  dsimp only
  split
  · rw [scratch_conclude, scratch_alarm]
    rfl
  · split
    · rw [scratch_conclude]
      rfl
    · rw [scratch_conclude]
      rfl

theorem scratch_answered (session : Session) (id : OperationId) (inquiry : Inquiry)
    (executable scratch : Path) (ending : Compiler.Ending) :
    (session.answered id inquiry executable scratch ending).1.scratch =
      session.scratch.erase scratch := by
  unfold answered
  dsimp only
  split
  · rfl
  · split
    · exact scratch_alarm ..
    · rfl

theorem keeping_ended (session : Session) (host : Host) (id : OperationId)
    (ending : Compiler.Ending) : (⟨session, .input host (.ended id ending)⟩ : Moment).Keeping := by
  have unmoved : session.file? id = none →
      session.step host (.ended id ending) = (session, []) →
      (⟨session, .input host (.ended id ending)⟩ : Moment).Keeping := by
    intro without same
    refine keeping_of_same ?_ ?_ ?_ ?_ <;> simp only [calls, after, effects, react, same]
    · intro other stops
      rw [← beq_iff_eq.mp stops]
      exact without
    · rfl
  cases waits : session.operations.get? id with
  | none => exact unmoved (by rw [file?, waits]; rfl) (by simp only [step, waits])
  | some stage =>
    have file := file?_of_stage waits
    cases stage with
    | checking check =>
      obtain ⟨ends, idle⟩ := checked_cases session id check ending
      refine .frees id check.scratch (fun _ => rfl) ?_ file ?_ (file?_settle check.cause ?_)
      all_goals simp only [calls, after, effects, react, step, waits]
      · exact invocations_of_idle idle
      · exact scratch_checked ..
      · exact ends
    | asking inquiry executable scratch =>
      obtain ⟨gone, idle⟩ := answered_cases session id inquiry executable scratch ending
      refine .frees id scratch (fun _ => rfl) ?_ file ?_ (file?_erase ?_)
      all_goals simp only [calls, after, effects, react, step, waits]
      · exact invocations_of_idle idle
      · exact scratch_answered ..
      · exact gone
    | _ => exact unmoved file (by simp only [step, waits])

theorem keeping_abandon (session : Session) (host : Host) (id : OperationId) :
    (⟨session, .input host (.abandon id)⟩ : Moment).Keeping := by
  have left : session.file? id = none → session.step host (.abandon id) = (session.finish id, []) →
      (⟨session, .input host (.abandon id)⟩ : Moment).Keeping := by
    intro without same
    refine .keeps ?_ ?_ ?_ (file?_of_without without (file?_erase ?_))
    all_goals simp only [calls, after, effects, react, same]
    · intro other stops
      rw [← beq_iff_eq.mp stops]
      exact without
    · rfl
    · rfl
    · rfl
  have freed : ∀ file, session.file? id = some file →
      session.step host (.abandon id) = ((session.discard file).finish id, []) →
      (⟨session, .input host (.abandon id)⟩ : Moment).Keeping := by
    intro file had same
    refine .frees id file (fun _ => rfl) ?_ had ?_ (file?_erase ?_)
    all_goals
      simp only [calls, after, effects, react, same]
      rfl
  cases waits : session.operations.get? id with
  | none => exact left (by rw [file?, waits]; rfl) (by simp only [step, waits])
  | some stage =>
    have file := file?_of_stage waits
    cases stage with
    | checking check => exact freed check.scratch file (by simp only [step, waits])
    | asking inquiry executable scratch => exact freed scratch file (by simp only [step, waits])
    | _ => exact left file (by simp only [step, waits])

/-- What a moment does to the files of operations, whatever it is. -/
theorem keeping (moment : Moment) (numbered : moment.session.Numbered) : moment.Keeping := by
  obtain ⟨session, impulse⟩ := moment
  cases impulse with
  | support pulls => exact keeping_of_same (by simp [Impulse.stops]) rfl rfl rfl
  | general settings => exact keeping_of_same (by simp [Impulse.stops]) rfl rfl rfl
  | input host input =>
    cases input with
    | start request => exact keeping_start session numbered host request
    | settings id answer => exact keeping_settings session numbered host id answer
    | ended id ending => exact keeping_ended session host id ending
    | rested uri ticket => exact keeping_rested session numbered host uri ticket
    | turn id => exact keeping_turn session host id
    | abandon id => exact keeping_abandon session host id

end Moment

end LanguageServer.Session
