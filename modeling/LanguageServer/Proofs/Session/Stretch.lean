import LanguageServer.Proofs.Session.Custody
import LanguageServer.Proofs.Session.Publication

/-! What a validation does itself. It may have to wait for the settings of its document and for the
compiler. From one such point to the next nothing comes in between, and this stretch of it changes
nothing that is known about other documents. -/

namespace LanguageServer.Session

/-! ### Stretches -/

/-- What lets a validation go on. -/
inductive Leg
  /-- It begins, or could begin and has its turn. -/
  | begins (host : Host) (uri : Uri) (cause : Cause)
  /-- The settings of its document have arrived. -/
  | informed (host : Host) (uri : Uri) (cause : Cause) (answer : Option Json)
  /-- Its call has ended. -/
  | ended (check : Check) (ending : Compiler.Ending)

def Leg.uri : Leg → Uri
  | .begins _ uri _ => uri
  | .informed _ uri _ _ => uri
  | .ended check _ => check.uri

/-- A validation that goes on until it waits or ends, with the session that it finds. -/
structure Stretch where
  base : Session
  id : OperationId
  leg : Leg

/-- An operation and the outcome that it came to. -/
structure Conclusion where
  id : OperationId
  outcome : Outcome
  deriving DecidableEq

def Effect.conclusion? : Effect → Option Conclusion
  | .done id (.outcome (some outcome)) => some ⟨id, outcome⟩
  | _ => none

def conclusions (effects : List Effect) : List Conclusion :=
  effects.filterMap Effect.conclusion?

def Moment.conclusions (moment : Moment) : List Conclusion :=
  Session.conclusions moment.effects

namespace Stretch

def uri (stretch : Stretch) : Uri :=
  stretch.leg.uri

/-- The settings that a validation uses, if it knows them. -/
def settings? (stretch : Stretch) : Option Settings :=
  match stretch.leg with
  | .begins _ uri _ => stretch.base.settings? uri
  | .informed _ _ _ answer => some (layered stretch.base.general answer)
  | .ended _ _ => none

/-- The session after a stretch, and what it brings about. -/
def result (stretch : Stretch) : Session × List Effect :=
  match stretch.leg with
  | .begins host uri cause => stretch.base.validate host stretch.id uri cause
  | .informed host uri cause answer =>
    stretch.base.informed host stretch.id (.validate uri cause) answer
  | .ended check ending => stretch.base.checked stretch.id check ending

def after (stretch : Stretch) : Session :=
  stretch.result.1

def effects (stretch : Stretch) : List Effect :=
  stretch.result.2

def calls (stretch : Stretch) : List Invocation :=
  invocations stretch.effects

def published (stretch : Stretch) : List Publication :=
  publications stretch.effects

end Stretch

/-- The stretch of a validation that comes with an input. The session that it finds has what the input
itself says. -/
def stretch? (host : Host) (session : Session) : Input → Option Stretch
  | .start (.open uri text version) =>
    if session.validated.contains uri then none
    else some ⟨session.prepared (.start (.open uri text version)), session.nextOperation,
      .begins host uri .asked⟩
  | .start (.validate uri) => some ⟨session.draw.1, session.nextOperation, .begins host uri .asked⟩
  | .settings id answer =>
    match session.operations.get? id with
    | some (.fetching (.validate uri cause)) => some ⟨session, id, .informed host uri cause answer⟩
    | _ => none
  | .ended id ending =>
    match session.operations.get? id with
    | some (.checking check) => some ⟨session, id, .ended check ending⟩
    | _ => none
  | .rested uri ticket =>
    if session.timers.pending.get? uri = some ticket then
      some ⟨session.prepared (.rested uri ticket), session.nextOperation, .begins host uri .rest⟩
    else none
  | .turn id =>
    match session.operations.get? id with
    | some (.ready uri cause) => some ⟨session, id, .begins host uri cause⟩
    | _ => none
  | _ => none

/-- The stretch of a validation that comes with a moment. -/
def Moment.stretch? (moment : Moment) : Option Stretch :=
  match moment.impulse with
  | .input host input => moment.session.stretch? host input
  | _ => none

/-- An input that lets a validation go on does nothing else. -/
theorem step_of_stretch {host : Host} {session : Session} {input : Input} {stretch : Stretch}
    (has : session.stretch? host input = some stretch) :
    session.step host input = stretch.result := by
  cases input with
  | start request =>
    cases request with
    | «open» uri text version =>
      simp only [stretch?] at has
      split at has
      · cases has
      · rename_i new
        obtain rfl := Option.some.inj has
        simp only [step, start, opened, draw, new, Bool.false_eq_true, if_false]
        rfl
    | validate uri =>
      obtain rfl := Option.some.inj has
      rfl
    | change uri text version => cases has
    | close uri => cases has
    | shutdown => cases has
    | configure settings => cases has
    | ask uri question => cases has
  | settings id answer =>
    simp only [stretch?] at has
    split at has
    · rename_i uri cause waits
      obtain rfl := Option.some.inj has
      simp only [step, waits, Stretch.result]
    · cases has
  | ended id ending =>
    simp only [stretch?] at has
    split at has
    · rename_i check waits
      obtain rfl := Option.some.inj has
      simp only [step, waits, Stretch.result]
    · cases has
  | rested uri ticket =>
    simp only [stretch?] at has
    split at has
    · rename_i pending
      obtain rfl := Option.some.inj has
      simp only [step, Debounce.Register.claim?, pending, if_true]
      rfl
    · cases has
  | turn id =>
    simp only [stretch?] at has
    split at has
    · rename_i uri cause waits
      obtain rfl := Option.some.inj has
      simp only [step, waits, Stretch.result]
    · cases has
  | abandon id => cases has

theorem Moment.result_of_stretch {moment : Moment} {stretch : Stretch}
    (has : moment.stretch? = some stretch) :
    moment.after = stretch.after ∧ moment.effects = stretch.effects := by
  obtain ⟨session, impulse⟩ := moment
  cases impulse with
  | support pulls => cases has
  | general settings => cases has
  | input host input =>
    have same := step_of_stretch has
    exact ⟨congrArg Prod.fst same, congrArg Prod.snd same⟩

/-! ### What a stretch leaves alone -/

/-- What is known about documents is the same afterwards, apart from the settings and the revision of
one of them. -/
structure Books.Confined (uri : Uri) (before after : Books) : Prop where
  documents : after.documents = before.documents
  timers : after.timers = before.timers
  latest : ∀ other, other ≠ uri → after.latest.get? other = before.latest.get? other
  settings : ∀ other, other ≠ uri → after.settings.get? other = before.settings.get? other

namespace Books

variable {books middle last : Books} {uri : Uri}

theorem Confined.trans (first : Confined uri books middle) (second : Confined uri middle last) :
    Confined uri books last := by
  refine ⟨second.documents.trans first.documents, second.timers.trans first.timers, ?_, ?_⟩
  · intro other different
    rw [second.latest other different, first.latest other different]
  · intro other different
    rw [second.settings other different, first.settings other different]

theorem confined_refl (books : Books) (uri : Uri) : Confined uri books books :=
  ⟨rfl, rfl, fun _ _ => rfl, fun _ _ => rfl⟩

theorem confined_informed (books : Books) (uri : Uri) (settings : Settings) :
    Confined uri books (books.enter (.informed uri settings)) := by
  simp only [enter]
  split
  · refine ⟨rfl, rfl, fun _ _ => rfl, ?_⟩
    intro other different
    exact Table.get?_put_of_ne _ _ different
  · exact confined_refl books uri

theorem confined_turned (books : Books) {turn : Option Turn}
    (about : ∀ has, turn = some has → has.uri = uri) : Confined uri books (books.turned turn) := by
  cases turn with
  | none => exact confined_refl books uri
  | some turn =>
    obtain rfl := about turn rfl
    simp only [turned]
    split
    · refine ⟨rfl, rfl, ?_, fun _ _ => rfl⟩
      intro other different
      exact Table.get?_put_of_ne _ _ different
    · exact confined_refl books turn.uri

end Books

/-- A validation changes no text, no version and no timer, and no revision and no settings but those
of its own document. -/
theorem Stretch.confined (stretch : Stretch) :
    stretch.base.books.Confined stretch.uri stretch.after.books := by
  obtain ⟨base, id, leg⟩ := stretch
  cases leg with
  | begins host uri cause =>
    have same : (Stretch.after ⟨base, id, .begins host uri cause⟩).books =
        base.books.turned (base.beginning? host id uri cause) := books_validate ..
    rw [same]
    apply Books.confined_turned
    intro turn begun
    obtain ⟨settings, rfl, -⟩ := validate_of_beginning base begun
    rfl
  | informed host uri cause answer =>
    have same : (Stretch.after ⟨base, id, .informed host uri cause answer⟩).books = _ :=
      books_informed host base id uri cause answer
    rw [same]
    apply (Books.confined_informed base.books uri (layered base.general answer)).trans
    apply Books.confined_turned
    intro turn only
    rw [← Option.some.inj only]
    rfl
  | ended check ending =>
    have same : (Stretch.after ⟨base, id, .ended check ending⟩).books = base.books :=
      books_checked ..
    rw [same]
    exact Books.confined_refl _ _

/-- No file is made and no revision drawn, so every check under way is as current as before. -/
structure Passive (before after : Session) : Prop where
  scratch : after.scratch = before.scratch
  revision : after.revision = before.revision
  latest : after.latest = before.latest
  current : ∀ uri revision, after.isCurrent uri revision = before.isCurrent uri revision

theorem passive_of_books {before after : Session} (scratch : after.scratch = before.scratch)
    (books : after.books = before.books) : Passive before after := by
  have documents : after.documents = before.documents := congrArg Books.documents books
  have latest : after.latest = before.latest := congrArg Books.latest books
  refine ⟨scratch, congrArg Books.revision books, latest, ?_⟩
  intro uri revision
  rw [isCurrent, isCurrent, isOpen, isOpen, documents, latest]

theorem Passive.trans {before middle after : Session} (first : Passive before middle)
    (second : Passive middle after) : Passive before after := by
  refine ⟨second.scratch.trans first.scratch, second.revision.trans first.revision,
    second.latest.trans first.latest, ?_⟩
  intro uri revision
  rw [second.current, first.current]

theorem passive_keep (session : Session) (uri : Uri) (settings : Settings) :
    Passive session (session.keep uri settings) := by
  unfold keep
  split <;> exact ⟨rfl, rfl, rfl, fun _ _ => rfl⟩

/-! ### Parts that tell no conclusion -/

@[simp]
theorem conclusions_append (first second : List Effect) :
    conclusions (first ++ second) = conclusions first ++ conclusions second :=
  List.filterMap_append

theorem conclusions_resolve (host : Host) (session : Session) (settings : Settings) :
    conclusions (session.resolve host settings).2.2 = [] := by
  unfold resolve
  dsimp only
  split <;> rfl

theorem conclusions_alarm (session : Session) (detail : String) :
    conclusions (session.alarm detail).2 = [] := by
  unfold alarm
  split <;> rfl

theorem conclusions_conclude (session : Session) (id : OperationId) (cause : Cause)
    (outcome : Outcome) :
    conclusions (session.conclude id cause outcome).2 = [⟨id, outcome⟩] := by
  cases cause with
  | asked => rfl
  | rest => rfl
  | change change =>
    have silent : conclusions ((session.finish id).release change).2 = [] := by
      unfold release
      split
      · dsimp only
        split <;> rfl
      · rfl
    exact congrArg (List.cons _) silent

theorem conclusions_query (host : Host) (session : Session) (id : OperationId) (inquiry : Inquiry)
    (settings : Settings) : conclusions (session.query host id inquiry settings).2 = [] := by
  unfold query
  dsimp only
  split
  · rw [conclusions_append, conclusions_resolve]
    rfl
  · rw [conclusions_append, conclusions_resolve]
    rfl

theorem conclusions_ask (host : Host) (session : Session) (id : OperationId) (uri : Uri)
    (question : Question) : conclusions (session.ask host id uri question).2 = [] := by
  unfold ask
  split
  · unfold inquire
    split
    · exact conclusions_query ..
    · rfl
  · rfl

theorem conclusions_answered (session : Session) (id : OperationId) (inquiry : Inquiry)
    (executable scratch : Path) (ending : Compiler.Ending) :
    conclusions (session.answered id inquiry executable scratch ending).2 = [] := by
  unfold answered
  dsimp only
  split
  · rfl
  · split
    · rw [conclusions_append, conclusions_alarm]
      rfl
    · rfl

theorem conclusions_fanOut (session : Session) (change : OperationId) (uris : List Uri) :
    conclusions (session.fanOut change uris).2 = [] := by
  induction uris generalizing session with
  | nil => rfl
  | cons uri rest ih =>
    unfold fanOut
    exact ih _

theorem conclusions_reconfigured (host : Host) (session : Session) (id : OperationId)
    (settings : Settings) : conclusions (session.reconfigured host id settings).2 = [] := by
  unfold reconfigured
  dsimp only
  split
  · rfl
  · split
    · rfl
    · exact conclusions_fanOut ..

/-- Only validations come to an outcome. -/
theorem Moment.conclusions_of_none {moment : Moment} (none : moment.stretch? = none) :
    moment.conclusions = [] := by
  obtain ⟨session, impulse⟩ := moment
  cases impulse with
  | support pulls => rfl
  | general settings => rfl
  | input host input =>
    simp only [stretch?] at none
    simp only [Moment.conclusions, effects, react]
    cases input with
    | start request =>
      cases request with
      | «open» uri text version =>
        simp only [Session.stretch?] at none
        split at none
        · rename_i known
          simp only [step, start, opened, draw, known, if_true]
          rfl
        · cases none
      | change uri text version =>
        simp only [step, start, Session.changed]
        split <;> rfl
      | close uri => rfl
      | shutdown => rfl
      | validate uri => cases none
      | configure settings =>
        simp only [step, start, configure]
        split
        · rfl
        · exact conclusions_reconfigured ..
      | ask uri question => exact conclusions_ask ..
    | settings id answer =>
      simp only [Session.stretch?] at none
      simp only [step]
      split
      · rename_i task waits
        cases task with
        | validate uri cause =>
          simp only [waits] at none
          cases none
        | inquire inquiry => exact conclusions_query ..
      · exact conclusions_reconfigured ..
      · rfl
    | ended id ending =>
      simp only [Session.stretch?] at none
      simp only [step]
      split
      · rename_i check waits
        simp only [waits] at none
        cases none
      · exact conclusions_answered ..
      · rfl
    | rested uri ticket =>
      simp only [Session.stretch?] at none
      split at none
      · cases none
      · rename_i elapsed
        simp only [step, Debounce.Register.claim?, elapsed, if_false]
        rfl
    | turn id =>
      simp only [Session.stretch?] at none
      simp only [step]
      split
      · rename_i uri cause waits
        simp only [waits] at none
        cases none
      · rfl
      · rfl
    | abandon id => rfl

/-! ### How far a stretch comes -/

/-- How far a validation comes that has not called the compiler. -/
inductive Opening (base : Session) (id : OperationId) (uri : Uri) (known : Option Settings)
    (after : Session) (effects : List Effect) : Prop
  /-- It asks for the settings of its document. -/
  | waits (cause : Cause) (passive : Passive base after) (told : conclusions effects = [])
      (calls : invocations effects = []) (stands : after.standing? id = some (.preparing uri cause))
  /-- There is no compiler or no such document. -/
  | skips (passive : Passive base after) (told : conclusions effects = [⟨id, .skipped⟩])
      (calls : invocations effects = []) (gone : after.standing? id = none)
  /-- No file can be made. -/
  | fails (told : conclusions effects = [⟨id, .failed⟩]) (calls : invocations effects = [])
      (gone : after.standing? id = none)
  /-- It calls the compiler. -/
  | calls (settings : Settings) (check : Check) (executable file : Path) (text : String)
      (uses : known = some settings) (limit : check.limit = settings.maxDiagnostics)
      (about : check.uri = uri) (told : conclusions effects = [])
      (calls : invocations effects = [⟨id, executable, Compiler.checkArguments file, text⟩])
      (stands : after.standing? id = some (.checking check))

theorem opening_check (host : Host) (session : Session) (id : OperationId) (uri : Uri)
    (cause : Cause) (settings : Settings) :
    Opening session id uri (some settings) (session.check host id uri cause settings).1
      (session.check host id uri cause settings).2 := by
  have skipped : (host.locate settings = none ∨ session.documents.get? uri = none) →
      Opening session id uri (some settings) (session.check host id uri cause settings).1
        (session.check host id uri cause settings).2 := by
    intro missing
    rw [check_skipped host session id uri cause settings missing]
    refine .skips (passive_of_books ?_ ?_) ?_ ?_ (clears_conclude _ id cause .skipped).gone
    · rw [scratch_conclude, scratch_resolve]
    · rw [books_conclude, books_resolve]
    · rw [conclusions_append, conclusions_resolve, conclusions_conclude]
      rfl
    · rw [invocations_append, invocations_of_idle (idle_resolve _ _ _),
        invocations_of_idle (idle_conclude _ _ _ _), List.append_nil]
  cases found : host.locate settings with
  | none => exact skipped (.inl found)
  | some executable =>
    cases present : session.documents.get? uri with
    | none => exact skipped (.inr present)
    | some document =>
      cases made : host.scratch id with
      | none =>
        rw [check_failed host session id uri cause settings executable document found present made]
        exact .fails (conclusions_conclude _ _ _ _) (invocations_of_idle (idle_conclude _ _ _ _))
          (clears_conclude _ id cause .failed).gone
      | some file =>
        rw [check_called host session id uri cause settings executable file document found present
          made]
        exact .calls settings _ executable file document.text rfl rfl rfl rfl rfl
          (standing?_suspend_self ..)

theorem opening_validate (host : Host) (session : Session) (id : OperationId) (uri : Uri)
    (cause : Cause) :
    Opening session id uri (session.settings? uri) (session.validate host id uri cause).1
      (session.validate host id uri cause).2 := by
  unfold validate
  cases session.settings? uri with
  | some settings => exact opening_check host session id uri cause settings
  | none =>
    exact .waits cause (passive_of_books rfl rfl) rfl rfl (standing?_suspend_self ..)

/-- What is passive after the settings were kept is passive from before. -/
theorem Opening.after_keep {session after : Session} {id : OperationId} {uri other : Uri}
    {settings : Settings} {known : Option Settings} {effects : List Effect}
    (opening : Opening (session.keep other settings) id uri known after effects) :
    Opening session id uri known after effects := by
  have kept := passive_keep session other settings
  cases opening with
  | waits cause passive told calls stands => exact .waits cause (kept.trans passive) told calls stands
  | skips passive told calls gone => exact .skips (kept.trans passive) told calls gone
  | fails told calls gone => exact .fails told calls gone
  | calls used check executable file text uses limit about told calls stands =>
    exact .calls used check executable file text uses limit about told calls stands

theorem opening_informed (host : Host) (session : Session) (id : OperationId) (uri : Uri)
    (cause : Cause) (answer : Option Json) :
    Opening session id uri (some (layered session.general answer))
      (session.informed host id (.validate uri cause) answer).1
      (session.informed host id (.validate uri cause) answer).2 :=
  (opening_check host (session.keep uri (layered session.general answer)) id uri cause
    (layered session.general answer)).after_keep

/-- How a validation ends whose call has ended. -/
inductive Closing (id : OperationId) (check : Check) (effects : List Effect) : Prop
  /-- What was found is shown, up to the limit. -/
  | shows (diagnostics : List Diagnostic) (within : diagnostics.length ≤ check.limit)
      (told : conclusions effects = [⟨id, .published diagnostics.length⟩])
      (published : publications effects = [⟨check, diagnostics⟩])
  | drops (told : conclusions effects = [⟨id, .stale⟩]) (published : publications effects = [])
  /-- The compiler could not be run. -/
  | fails (told : conclusions effects = [⟨id, .failed⟩]) (published : publications effects = [])

theorem closing_checked (session : Session) (id : OperationId) (check : Check)
    (ending : Compiler.Ending) : Closing id check (session.checked id check ending).2 := by
  cases ending with
  | error fault =>
    refine .fails ?_ (checked_fault session id check fault)
    simp only [checked, Compiler.diagnostics]
    rw [conclusions_append, conclusions_alarm, conclusions_conclude]
    rfl
  | ok output =>
    cases current : session.isCurrent check.uri check.revision with
    | true =>
      rw [checked_current session id check output current]
      refine .shows ((Diagnostic.ofReport output.stderr.toList).take check.limit)
        (List.length_take_le ..) ?_ ?_
      · exact conclusions_conclude ..
      · exact congrArg (List.cons _) (publications_conclude ..)
    | false =>
      rw [checked_stale session id check output current]
      exact .drops (conclusions_conclude ..) (publications_conclude ..)

end LanguageServer.Session
