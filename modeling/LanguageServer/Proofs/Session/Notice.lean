import Mathlib.Data.List.Induction
import LanguageServer.Proofs.Session.Lookup
import LanguageServer.Proofs.Session.Supply

/-! What the user is told. A session warns once that there is no compiler, and reports once that the
compiler cannot be run. Each message has its cause in the run, and the second one tells of the first
failure. -/

namespace LanguageServer.Session

/-! ### Messages -/

/-- The text of a message of some gravity. -/
def Effect.text? (gravity : Gravity) : Effect → Option String
  | .message other text => if other = gravity then some text else none
  | _ => none

def texts (gravity : Gravity) (effects : List Effect) : List String :=
  effects.filterMap (Effect.text? gravity)

/-- The messages of some gravity that the user is shown in a run. -/
def shown (gravity : Gravity) (run : List Moment) : List String :=
  run.flatMap fun moment => texts gravity moment.effects

theorem texts_append (gravity : Gravity) (first second : List Effect) :
    texts gravity (first ++ second) = texts gravity first ++ texts gravity second :=
  List.filterMap_append

theorem shown_append (gravity : Gravity) (run : List Moment) (moment : Moment) :
    shown gravity (run ++ [moment]) = shown gravity run ++ texts gravity moment.effects := by
  simp [shown]

/-! ### What parts of an operation tell -/

/-- What the user is told where a compiler may be missing and there may be a failure to tell of. The
flags say what has been told before. -/
structure Told (wasWarned wasAlarmed : Bool) (result : Session) (effects : List Effect)
    (missing : Bool) (failure : Option String) : Prop where
  warned : result.warned = (wasWarned || missing)
  alarmed : result.alarmed = (wasAlarmed || failure.isSome)
  warnings : texts .warning effects = if missing && !wasWarned then [missingText] else []
  errors : texts .error effects = if wasAlarmed then [] else (failure.map alarmText).toList

theorem Told.quiet {warned alarmed : Bool} {result : Session} {effects : List Effect}
    (sameWarned : result.warned = warned) (sameAlarmed : result.alarmed = alarmed)
    (silent : ∀ gravity, texts gravity effects = []) :
    Told warned alarmed result effects false none := by
  refine ⟨?_, ?_, ?_, ?_⟩
  · rw [sameWarned, Bool.or_false]
  · rw [sameAlarmed, Option.isSome_none, Bool.or_false]
  · exact silent .warning
  · rw [silent]
    split <;> rfl

/-- What is told only depends on what has been told before. -/
theorem Told.since {warned alarmed otherWarned otherAlarmed missing : Bool} {result : Session}
    {effects : List Effect} {failure : Option String}
    (told : Told otherWarned otherAlarmed result effects missing failure)
    (sameWarned : otherWarned = warned) (sameAlarmed : otherAlarmed = alarmed) :
    Told warned alarmed result effects missing failure :=
  sameWarned ▸ sameAlarmed ▸ told

/-- What is told is all that is told if what follows is quiet. -/
theorem Told.followed {warned alarmed missing : Bool} {failure : Option String}
    {between result : Session} {first second : List Effect}
    (told : Told warned alarmed between first missing failure)
    (quiet : Told between.warned between.alarmed result second false none) :
    Told warned alarmed result (first ++ second) missing failure := by
  have silent : texts .error second = [] := by
    rw [quiet.errors]
    split <;> rfl
  refine ⟨?_, ?_, ?_, ?_⟩
  · rw [quiet.warned, told.warned, Bool.or_false]
  · rw [quiet.alarmed, told.alarmed, Option.isSome_none, Bool.or_false]
  · rw [texts_append, told.warnings, quiet.warnings]
    exact List.append_nil _
  · rw [texts_append, told.errors, silent, List.append_nil]

section Parts

variable (host : Host) (session : Session) (id : OperationId)

theorem told_resolve (settings : Settings) :
    Told session.warned session.alarmed (session.resolve host settings).1
      (session.resolve host settings).2.2 (host.locate settings).isNone none := by
  unfold resolve
  dsimp only
  cases host.locate settings with
  | some executable => exact .quiet rfl rfl fun _ => rfl
  | none =>
    cases warned : session.warned with
    | true => exact ⟨rfl, by simp, rfl, by simp [texts]⟩
    | false => exact ⟨rfl, by simp, rfl, by simp [texts, Effect.text?]⟩

theorem told_alarm (detail : String) :
    Told session.warned session.alarmed (session.alarm detail).1 (session.alarm detail).2 false
      (some detail) := by
  unfold alarm
  cases alarmed : session.alarmed with
  | true => exact ⟨by simp, alarmed, rfl, rfl⟩
  | false => exact ⟨by simp, rfl, rfl, rfl⟩

theorem told_conclude (cause : Cause) (outcome : Outcome) :
    Told session.warned session.alarmed (session.conclude id cause outcome).1
      (session.conclude id cause outcome).2 false none := by
  cases cause with
  | asked => exact .quiet rfl rfl fun _ => rfl
  | rest => exact .quiet rfl rfl fun _ => rfl
  | change change =>
    simp only [conclude, release]
    split
    · refine .quiet rfl rfl fun _ => ?_
      split <;> rfl
    · exact .quiet rfl rfl fun _ => rfl

theorem told_reply (reply : Option Reply) :
    Told session.warned session.alarmed (session.reply id reply).1 (session.reply id reply).2 false
      none :=
  .quiet rfl rfl fun _ => rfl

theorem told_fanOut (change : OperationId) (uris : List Uri) :
    Told session.warned session.alarmed (session.fanOut change uris).1
      (session.fanOut change uris).2 false none := by
  induction uris generalizing session with
  | nil => exact .quiet rfl rfl fun _ => rfl
  | cons uri rest ih =>
    have told : Told session.warned session.alarmed
        (session.draw.1.suspend session.draw.2 (.ready uri (.change change)))
        [.queue session.draw.2] false none := .quiet rfl rfl fun _ => rfl
    exact told.followed (ih _)

theorem told_reconfigured (settings : Settings) :
    Told session.warned session.alarmed (session.reconfigured host id settings).1
      (session.reconfigured host id settings).2 false none := by
  unfold reconfigured
  dsimp only
  split
  · exact .quiet rfl rfl fun _ => rfl
  · split
    · exact .quiet rfl rfl fun _ => rfl
    · exact (told_fanOut ..).since rfl rfl

theorem told_check (uri : Uri) (cause : Cause) (settings : Settings) :
    Told session.warned session.alarmed (session.check host id uri cause settings).1
      (session.check host id uri cause settings).2 (host.locate settings).isNone none := by
  have skipped : (host.locate settings = none ∨ session.documents.get? uri = none) →
      Told session.warned session.alarmed (session.check host id uri cause settings).1
        (session.check host id uri cause settings).2 (host.locate settings).isNone none := by
    intro missing
    rw [check_skipped host session id uri cause settings missing]
    exact (told_resolve host session settings).followed (told_conclude ..)
  cases found : host.locate settings with
  | none => exact found ▸ skipped (.inl found)
  | some executable =>
    cases present : session.documents.get? uri with
    | none => exact found ▸ skipped (.inr present)
    | some document =>
      cases made : host.scratch id with
      | none =>
        rw [check_failed host session id uri cause settings executable document found present made]
        exact (told_conclude ..).since rfl rfl
      | some file =>
        rw [check_called host session id uri cause settings executable file document found present
          made]
        exact .quiet rfl rfl fun _ => rfl

theorem told_query (inquiry : Inquiry) (settings : Settings) :
    Told session.warned session.alarmed (session.query host id inquiry settings).1
      (session.query host id inquiry settings).2 (host.locate settings).isNone none := by
  have told := told_resolve host session settings
  unfold query
  generalize session.resolve host settings = search at told ⊢
  obtain ⟨after, found, notices⟩ := search
  dsimp only at told ⊢
  split
  · exact told.followed (.quiet rfl rfl fun _ => rfl)
  · exact told.followed (told_reply ..)

end Parts

/-! ### What a moment tells -/

/-- Whether a search is for a document, and finds no compiler. -/
def Lookup.fails (lookup : Lookup) : Bool :=
  lookup.scope.isSome && lookup.found.isNone

section Beginnings

variable (host : Host) (session : Session) (id : OperationId)

theorem told_validate (uri : Uri) (cause : Cause) :
    Told session.warned session.alarmed (session.validate host id uri cause).1
      (session.validate host id uri cause).2 ((session.known? host uri).any Lookup.fails) none := by
  unfold validate known?
  cases session.settings? uri with
  | none => exact .quiet rfl rfl fun _ => rfl
  | some settings => exact (told_check ..).since rfl rfl

theorem told_ask (uri : Uri) (question : Question) :
    Told session.warned session.alarmed (session.ask host id uri question).1
      (session.ask host id uri question).2
      (((session.inquiry? uri question).bind fun inquiry => session.known? host inquiry.uri).any
        Lookup.fails) none := by
  unfold ask
  cases session.inquiry? uri question with
  | none => exact told_reply ..
  | some inquiry =>
    simp only [inquire, known?, Option.bind_some]
    cases session.settings? inquiry.uri with
    | none => exact .quiet rfl rfl fun _ => rfl
    | some settings => exact (told_query ..).since rfl rfl

end Beginnings

namespace Moment

/-- Whether a validation or a question finds no compiler. -/
def misses (moment : Moment) : Bool :=
  moment.lookup?.any Lookup.fails

/-- What there is to tell of an answer: it is a failure whose code tells that the compiler could not be
run. -/
def alarming? : Except Symbol.Failure Symbol → Option String
  | .error failure => if isAlarming failure then some failure.message else none
  | .ok _ => none

/-- What there is to tell of a call that has ended for an operation. -/
def trouble? (ending : Compiler.Ending) : Stage → Option String
  | .checking check =>
    match ending with
    | .error fault => some (fault.message check.executable)
    | .ok _ => none
  | .asking _ executable _ => alarming? (Compiler.symbol executable ending)
  | _ => none

/-- What there is to tell of a compiler that could not be run. -/
def failure? (moment : Moment) : Option String :=
  match moment.impulse with
  | .input _ (.ended id ending) => (moment.session.operations.get? id).bind (trouble? ending)
  | _ => none

theorem told_checked (session : Session) (id : OperationId) (check : Check)
    (ending : Compiler.Ending) :
    Told session.warned session.alarmed (session.checked id check ending).1
      (session.checked id check ending).2 false (trouble? ending (.checking check)) := by
  cases ending with
  | error fault =>
    exact (told_alarm (session.discard check.scratch) (fault.message check.executable)).followed
      (told_conclude ..)
  | ok output =>
    simp only [checked, Compiler.diagnostics]
    split
    · have told : Told session.warned session.alarmed (session.discard check.scratch)
          [.publish check ((Diagnostic.ofReport output.stderr.toList).take check.limit)] false
          none := .quiet rfl rfl fun _ => rfl
      exact told.followed (told_conclude ..)
    · exact (told_conclude ..).since rfl rfl

theorem told_answered (session : Session) (id : OperationId) (inquiry : Inquiry)
    (executable scratch : Path) (ending : Compiler.Ending) :
    Told session.warned session.alarmed
      (session.answered id inquiry executable scratch ending).1
      (session.answered id inquiry executable scratch ending).2 false
      (trouble? ending (.asking inquiry executable scratch)) := by
  simp only [answered, trouble?]
  cases Compiler.symbol executable ending with
  | ok symbol => exact .quiet rfl rfl fun _ => rfl
  | error failure =>
    simp only [alarming?]
    cases isAlarming failure with
    | true =>
      exact (told_alarm (session.discard scratch) failure.message).followed (told_reply ..)
    | false => exact .quiet rfl rfl fun _ => rfl

/-- A moment tells of a compiler that is missing or cannot be run, if it has not been told before. -/
theorem told (moment : Moment) :
    Told moment.session.warned moment.session.alarmed moment.after moment.effects moment.misses
      moment.failure? := by
  obtain ⟨session, impulse⟩ := moment
  have still : Told session.warned session.alarmed session [] false none := .quiet rfl rfl fun _ => rfl
  cases impulse with
  | support pulls => exact .quiet rfl rfl fun _ => rfl
  | general settings => exact .quiet rfl rfl fun _ => rfl
  | input host input =>
    cases input with
    | start request =>
      cases request with
      | «open» uri text version =>
        simp only [after, effects, react, step, start, opened, draw, misses, lookup?,
          Session.lookup?]
        by_cases known : session.validated.contains uri = true
        · simp only [known, if_true]
          exact .quiet rfl rfl fun _ => rfl
        · simp only [known, Bool.false_eq_true, if_false]
          exact (told_validate ..).since rfl rfl
      | change uri text version =>
        simp only [after, effects, react, step, start, Session.changed, draw]
        split <;> exact .quiet rfl rfl fun _ => rfl
      | close uri => exact .quiet rfl rfl fun _ => rfl
      | shutdown => exact .quiet rfl rfl fun _ => rfl
      | validate uri => exact told_validate host session.draw.1 _ uri .asked
      | configure settings =>
        simp only [after, effects, react, step, start, configure, draw, misses, lookup?,
          Session.lookup?]
        by_cases pulls : session.pulls = true
        · simp only [pulls, if_true]
          exact .quiet rfl rfl fun _ => rfl
        · simp only [pulls, Bool.false_eq_true, if_false]
          exact (told_reconfigured ..).since rfl rfl
      | ask uri question => exact told_ask host session.draw.1 _ uri question
    | settings id answer =>
      simp only [after, effects, react, step, misses, lookup?, Session.lookup?]
      cases session.operations.get? id with
      | none => exact still
      | some stage =>
        cases stage with
        | fetching task =>
          have kept : (session.keep task.uri (layered session.general answer)).warned =
                session.warned ∧
              (session.keep task.uri (layered session.general answer)).alarmed =
                session.alarmed := by
            unfold keep
            split <;> exact ⟨rfl, rfl⟩
          cases task with
          | validate uri cause => exact (told_check ..).since kept.1 kept.2
          | inquire inquiry => exact (told_query ..).since kept.1 kept.2
        | reconfiguring general => exact (told_reconfigured ..).since rfl rfl
        | _ => exact still
    | ended id ending =>
      simp only [after, effects, react, step, failure?]
      cases session.operations.get? id with
      | none => exact still
      | some stage =>
        cases stage with
        | checking check => exact told_checked ..
        | asking inquiry executable scratch => exact told_answered ..
        | _ => exact still
    | rested uri ticket =>
      simp only [after, effects, react, step, Debounce.Register.claim?, misses, lookup?,
        Session.lookup?]
      by_cases pending : session.timers.pending.get? uri = some ticket
      · simp only [pending, if_true]
        exact (told_validate ..).since rfl rfl
      · simp only [pending, if_false]
        exact still
    | turn id =>
      simp only [after, effects, react, step, misses, lookup?, Session.lookup?]
      cases session.operations.get? id with
      | none => exact still
      | some stage =>
        cases stage with
        | ready uri cause => exact (told_validate ..).since rfl rfl
        | revalidating waiting count => cases waiting <;> exact .quiet rfl rfl fun _ => rfl
        | _ => exact still
    | abandon id =>
      simp only [after, effects, react, step]
      split <;> exact .quiet rfl rfl fun _ => rfl

end Moment

/-! ### What a run tells -/

theorem alarmed_run (general : Settings) (impulses : List Impulse) :
    let run := (fresh general).moments impulses
    ((fresh general).after impulses).alarmed = (run.findSome? Moment.failure?).isSome ∧
      shown .error run = ((run.findSome? Moment.failure?).map alarmText).toList := by
  refine run_induction (motive := fun past session =>
    session.alarmed = (past.findSome? Moment.failure?).isSome ∧
      shown .error past = ((past.findSome? Moment.failure?).map alarmText).toList)
    ?_ [] (fresh general) ⟨rfl, rfl⟩ impulses
  rintro past session impulse ⟨before, shownBefore⟩
  have told := Moment.told ⟨session, impulse⟩
  have first : (past ++ [(⟨session, impulse⟩ : Moment)]).findSome? Moment.failure? =
      (past.findSome? Moment.failure?).or (Moment.failure? ⟨session, impulse⟩) := by
    rw [List.findSome?_append, List.findSome?_singleton]
  rw [first, Option.isSome_or, shown_append, told.errors, shownBefore, before]
  refine ⟨?_, ?_⟩
  · rw [← before]
    exact told.alarmed
  · cases past.findSome? Moment.failure? <;> simp

/-! ### Causes -/

/-- The codes of failures that mean that the compiler could not be run. -/
def alarmCodes : List String :=
  [Symbol.Failure.spawnCode, Symbol.Failure.timeoutCode]

/-- An operation learns that the compiler could not be run. -/
inductive Moment.Fails (moment : Moment) (detail : String) : Prop
  /-- The call of a check has no output, whatever has become of its document. -/
  | check (host : Host) (id : OperationId) (check : Check) (fault : Compiler.Fault)
      (now : moment.impulse = .input host (.ended id (.error fault)))
      (waits : moment.session.operations.get? id = some (.checking check))
      (tells : fault.message check.executable = detail)
  /-- The answer to a question is a failure with one of the codes. -/
  | question (host : Host) (id : OperationId) (inquiry : Inquiry) (executable scratch : Path)
      (ending : Compiler.Ending) (failure : Symbol.Failure)
      (now : moment.impulse = .input host (.ended id ending))
      (waits : moment.session.operations.get? id = some (.asking inquiry executable scratch))
      (answer : Compiler.symbol executable ending = .error failure)
      (code : failure.code ∈ alarmCodes) (tells : failure.message = detail)

theorem isAlarming_iff (failure : Symbol.Failure) :
    isAlarming failure = true ↔ failure.code ∈ alarmCodes := by
  simp [isAlarming, alarmCodes]

namespace Moment

theorem failure?_eq_some_iff (moment : Moment) (detail : String) :
    moment.failure? = some detail ↔ moment.Fails detail := by
  obtain ⟨session, impulse⟩ := moment
  constructor
  · intro has
    unfold failure? at has
    split at has
    · rename_i host id ending now
      obtain ⟨stage, waits, tells⟩ := Option.bind_eq_some_iff.mp has
      cases stage with
      | checking check =>
        cases ending with
        | error fault => exact .check host id check fault now waits (Option.some.inj tells)
        | ok output => cases tells
      | asking inquiry executable scratch =>
        simp only [trouble?] at tells
        cases answer : Compiler.symbol executable ending with
        | ok symbol =>
          rw [answer] at tells
          cases tells
        | error failure =>
          rw [answer, alarming?] at tells
          split at tells
          · rename_i alarming
            exact .question host id inquiry executable scratch ending failure now waits answer
              ((isAlarming_iff failure).mp alarming) (Option.some.inj tells)
          · cases tells
      | _ => cases tells
    · cases has
  · intro fails
    cases fails with
    | check host id check fault now waits tells =>
      dsimp only at now waits
      subst now
      simp only [failure?, waits, Option.bind_some, trouble?, tells]
    | question host id inquiry executable scratch ending failure now waits answer code tells =>
      dsimp only at now waits
      subst now
      simp only [failure?, waits, Option.bind_some, trouble?, answer, alarming?,
        (isAlarming_iff failure).mpr code, if_true, tells]

theorem failure?_eq_none_iff (moment : Moment) :
    moment.failure? = none ↔ ∀ detail, ¬ moment.Fails detail := by
  simp only [← failure?_eq_some_iff, Option.eq_none_iff_forall_ne_some, ne_eq]

end Moment

/-- An error is shown once, if the compiler cannot be run, and tells of the first time. -/
theorem errors_shown (general : Settings) (impulses : List Impulse) :
    let run := (fresh general).moments impulses
    (∃ earlier moment later detail, run = earlier ++ moment :: later ∧
        (∀ other ∈ earlier, ∀ detail, ¬ other.Fails detail) ∧ moment.Fails detail ∧
        shown .error run = [alarmText detail]) ∨
      ((∀ moment ∈ run, ∀ detail, ¬ moment.Fails detail) ∧ shown .error run = []) := by
  intro run
  rw [(alarmed_run general impulses).2]
  cases first : run.findSome? Moment.failure? with
  | some detail =>
    obtain ⟨earlier, moment, later, split, here, before⟩ := List.findSome?_eq_some_iff.mp first
    refine .inl ⟨earlier, moment, later, detail, split, ?_, ?_, rfl⟩
    · intro other member
      exact other.failure?_eq_none_iff.mp (before other member)
    · exact (moment.failure?_eq_some_iff detail).mp here
  | none =>
    refine .inr ⟨?_, rfl⟩
    intro moment member
    exact moment.failure?_eq_none_iff.mp (List.findSome?_eq_none_iff.mp first moment member)

/-! ### Runs without a compiler -/

/-- The compiler is nowhere to be found. -/
def Moment.Lacks (moment : Moment) : Prop :=
  ∀ host input, moment.impulse = .input host input → ∀ settings, host.locate settings = none

theorem Moment.Lacks.calls {moment : Moment} (lacks : moment.Lacks)
    (numbered : moment.session.Numbered) : moment.calls = [] := by
  cases moment.keeping numbered with
  | makes host input call uri document now unstopped found =>
    obtain ⟨settings, located⟩ := found
    rw [lacks host input now settings] at located
    cases located
  | frees id file stops silent => exact silent
  | keeps unused silent => exact silent

/-- No call of the compiler ends without output. -/
def Moment.EndsNormally (moment : Moment) : Prop :=
  ∀ host id fault, moment.impulse ≠ .input host (.ended id (.error fault))

/-- The compiler answers a question with an envelope that reports a failure. -/
def Moment.Reports (moment : Moment) (failure : Symbol.Failure) : Prop :=
  ∃ host id inquiry executable scratch output result,
    moment.impulse = .input host (.ended id (.ok output)) ∧
      moment.session.operations.get? id = some (.asking inquiry executable scratch) ∧
      Symbol.Envelope.record.read.all (Text.trim output.stdout.toList) =
        .ok ⟨false, result, some failure⟩

/-- An output whose failure has one of the codes is an envelope that says so. -/
theorem envelope_of_alarm {output : List Char} {failure : Symbol.Failure}
    (answer : Symbol.ofOutput output = .error failure) (code : failure.code ∈ alarmCodes) :
    ∃ result, Symbol.Envelope.record.read.all (Text.trim output) =
      .ok ⟨false, result, some failure⟩ := by
  have distinct : Symbol.Failure.parseCode ∉ alarmCodes := by decide
  unfold Symbol.ofOutput at answer
  split at answer
  · rename_i envelope read
    unfold Symbol.Envelope.answer at answer
    split at answer
    · cases answer
    · obtain rfl := Except.error.inj answer
      exact absurd code distinct
    · rename_i result reported
      obtain rfl := Except.error.inj answer
      exact ⟨result, read⟩
    · obtain rfl := Except.error.inj answer
      exact absurd code distinct
  · obtain rfl := Except.error.inj answer
    exact absurd code distinct

theorem Moment.EndsNormally.fails_iff {moment : Moment} (normal : moment.EndsNormally)
    (detail : String) :
    moment.Fails detail ↔
      ∃ failure, moment.Reports failure ∧ failure.code ∈ alarmCodes ∧ failure.message = detail := by
  constructor
  · intro fails
    cases fails with
    | check host id check fault now => exact absurd now (normal host id fault)
    | question host id inquiry executable scratch ending failure now waits answer code tells =>
      cases ending with
      | error fault => exact absurd now (normal host id fault)
      | ok output =>
        obtain ⟨result, read⟩ := envelope_of_alarm answer code
        exact ⟨failure, ⟨host, id, inquiry, executable, scratch, output, result, now, waits, read⟩,
          code, tells⟩
  · rintro ⟨failure, ⟨host, id, inquiry, executable, scratch, output, result, now, waits, read⟩, code,
      tells⟩
    refine .question host id inquiry executable scratch (.ok output) failure now waits ?_ code tells
    simp only [Compiler.symbol, Symbol.ofOutput, read, Symbol.Envelope.answer]

/-- In every run in which all calls of the compiler end normally, an error is shown exactly if the
compiler itself reports a failure with one of the codes that stand for a compiler which could not be
run, and tells of the first such report. No other output does so, and no failure is an answer. -/
theorem error_shown_iff_reported (general : Settings) (impulses : List Impulse) :
    let run := (fresh general).moments impulses
    (∀ moment ∈ run, moment.EndsNormally) →
      ((∃ earlier moment later failure, run = earlier ++ moment :: later ∧
          (∀ other ∈ earlier, ∀ failure, other.Reports failure → failure.code ∉ alarmCodes) ∧
          moment.Reports failure ∧ failure.code ∈ alarmCodes ∧
          shown .error run = [alarmText failure.message]) ∨
        ((∀ moment ∈ run, ∀ failure, moment.Reports failure → failure.code ∉ alarmCodes) ∧
          shown .error run = [])) ∧
      ∀ moment ∈ run, ∀ host id inquiry executable scratch output failure,
        moment.impulse = .input host (.ended id (.ok output)) →
        moment.session.operations.get? id = some (.asking inquiry executable scratch) →
        Symbol.ofOutput output.stdout.toList = .error failure → inquiry.purpose ≠ .symbol →
        .done id (.reply none) ∈ moment.effects := by
  intro run normal
  refine ⟨?_, ?_⟩
  · have unreported : ∀ moment ∈ run, (∀ detail, ¬ moment.Fails detail) →
        ∀ failure, moment.Reports failure → failure.code ∉ alarmCodes := by
      intro moment member never failure reports code
      exact never _ (((normal moment member).fails_iff _).mpr ⟨failure, reports, code, rfl⟩)
    rcases errors_shown general impulses with
      ⟨earlier, moment, later, detail, split, before, fails, told⟩ | ⟨never, told⟩
    · change run = _ at split
      obtain ⟨failure, reports, code, rfl⟩ :=
        ((normal moment (by simp [split])).fails_iff detail).mp fails
      refine .inl ⟨earlier, moment, later, failure, split, ?_, reports, code, told⟩
      intro other member
      exact unreported other (by simp [split, member]) (before other member)
    · exact .inr ⟨fun moment member => unreported moment member (never moment member), told⟩
  · intro moment member host id inquiry executable scratch output failure now waits answer purpose
    have nothing : inquiry.reply? (.error failure) = none := by
      unfold Inquiry.reply?
      cases purposeIs : inquiry.purpose with
      | symbol => exact absurd purposeIs purpose
      | _ => rfl
    simp only [Moment.effects, react, now, step, waits, answered, Compiler.symbol, answer, nothing,
      reply]
    exact List.mem_append_right _ (List.mem_singleton_self _)

/-- A document is checked, and then asked about; both calls end normally. -/
def answeredRun (host : Host) (uri : Uri) (output : String) : List Impulse :=
  [.input host (.start (.open uri "x" 1)), .input host (.ended 0 (.ok ⟨"", "", some 0⟩)),
    .input host (.start (.ask uri (.hover ⟨0, 0⟩))), .input host (.ended 1 (.ok ⟨output, "", some 1⟩))]

/-- An output that reports a failure. -/
def failureText (code message : String) : String :=
  "\x7b\"success\":false,\"error\":\x7b\"code\":\"" ++ code ++ "\",\"message\":\"" ++ message ++
    "\"\x7d\x7d"

theorem answeredRun_endsNormally (general : Settings) (host : Host) (uri : Uri) (output : String) :
    ∀ moment ∈ (fresh general).moments (answeredRun host uri output), moment.EndsNormally := by
  intro moment member other id fault now
  obtain ⟨place, here⟩ := List.mem_iff_getElem?.mp member
  obtain ⟨before, rest, same, -⟩ := moment_at_place here
  have listed : moment.impulse ∈ answeredRun host uri output := by simp [same]
  simp [answeredRun, now] at listed

theorem error_shown_iff_reported_timeout :
    let host : Host := ⟨fun _ => some "/bin/volta", fun _ => some "/tmp/a.volta"⟩
    let impulses := answeredRun host ⟨"file:///a"⟩ (failureText "TimeoutError" "late")
    let run := (fresh {}).moments impulses
    (∀ moment ∈ run, moment.EndsNormally) ∧
      ∃ moment ∈ run, ∃ failure, moment.Reports failure ∧ failure.code ∈ alarmCodes ∧
        shown .error run = [alarmText failure.message] := by
  intro host impulses run
  have normal := answeredRun_endsNormally {} host ⟨"file:///a"⟩ (failureText "TimeoutError" "late")
  refine ⟨normal, ?_⟩
  rcases (error_shown_iff_reported {} impulses normal).1 with
    ⟨earlier, moment, later, failure, split, -, reports, code, told⟩ | ⟨-, silent⟩
  · change run = _ at split
    exact ⟨moment, by simp [split], failure, reports, code, told⟩
  · exact absurd silent (by decide +kernel)

/-- A compiler that has run is reported as one that could not be run, because the code of the failure
which it answers with says so. -/
theorem reported_code_shown :
    let host : Host := ⟨fun _ => some "/bin/volta", fun _ => some "/tmp/a.volta"⟩
    let run := (fresh {}).moments
      (answeredRun host ⟨"file:///a"⟩ (failureText "SpawnError" "x"))
    (∀ moment ∈ run, moment.EndsNormally) ∧
      shown .error run = ["Could not run the Volta compiler: x"] :=
  ⟨answeredRun_endsNormally _ _ _ _, by decide +kernel⟩

end LanguageServer.Session
