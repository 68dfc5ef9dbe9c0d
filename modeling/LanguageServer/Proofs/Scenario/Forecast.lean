import LanguageServer.Proofs.Scenario.Isolation
import LanguageServer.Proofs.Session.Expectation

/-! What is to be seen of a document after a change of the configuration. Each validation that the
change starts goes its own way: what becomes of it follows from the surroundings, its document and
the time at which it has its turn, whatever the other validations do meanwhile. -/

namespace LanguageServer

/-! ### Signs of a validation -/

namespace Session

/-- What the validations of a document let be seen. -/
inductive Sign
  /-- The editor was asked for the settings of the document. -/
  | asked
  | saw (sight : Sight)
  deriving DecidableEq

/-- The sign of a document that an effect is, given the operations that are then under way. -/
def Effect.sign? (uri : Uri) (after : Session) : Effect → Option Sign
  | .fetch _ scope => if scope = some uri then some .asked else none
  | effect => (effect.sight? uri after).map .saw

/-- The signs of a document in effects. -/
def signs (uri : Uri) (after : Session) (effects : List Effect) : List Sign :=
  effects.filterMap (Effect.sign? uri after)

@[simp]
theorem signs_append (uri : Uri) (after : Session) (one other : List Effect) :
    signs uri after (one ++ other) = signs uri after one ++ signs uri after other :=
  List.filterMap_append

/-! ### Parts of a validation -/

/-- Effects that are only messages to the user. -/
def Notices (effects : List Effect) : Prop :=
  ∀ effect ∈ effects, ∃ gravity text, effect = .message gravity text

theorem Notices.signs {effects : List Effect} (notices : Notices effects) (uri : Uri)
    (after : Session) : signs uri after effects = [] := by
  apply List.filterMap_eq_nil_iff.mpr
  intro effect member
  obtain ⟨gravity, text, rfl⟩ := notices effect member
  rfl

theorem Notices.mute {effects : List Effect} (notices : Notices effects) :
    Scenario.Mute effects := by
  intro surroundings now
  apply List.flatMap_eq_nil_iff.mpr
  intro effect member
  obtain ⟨gravity, text, rfl⟩ := notices effect member
  rfl

theorem Notices.undone {effects : List Effect} (notices : Notices effects) (id : OperationId)
    (result : Result) : .done id result ∉ effects := by
  intro member
  obtain ⟨gravity, text, same⟩ := notices _ member
  cases same

theorem resolve_eq (host : Host) (session : Session) (settings : Settings) :
    ∃ warned notices, Notices notices ∧
      session.resolve host settings =
        ({ session with compiler := host.locate settings, warned := warned },
          host.locate settings, notices) := by
  unfold resolve
  dsimp only
  split
  · refine ⟨true, _, ?_, rfl⟩
    intro effect member
    exact ⟨_, _, List.mem_singleton.mp member⟩
  · exact ⟨session.warned, [], by simp [Notices], rfl⟩

theorem alarm_eq (session : Session) (detail : String) :
    ∃ alarmed notices, Notices notices ∧
      session.alarm detail = ({ session with alarmed := alarmed }, notices) := by
  unfold alarm
  split
  · exact ⟨session.alarmed, [], by simp [Notices], rfl⟩
  · refine ⟨true, _, ?_, rfl⟩
    intro effect member
    exact ⟨_, _, List.mem_singleton.mp member⟩

/-- When a validation ends, the change that started it waits for one less, and gets its turn after the
last. -/
theorem conclude_waited {session : Session} {id change : OperationId} {waiting count : Nat}
    (different : change ≠ id)
    (waits : session.operations.get? change = some (.revalidating waiting count))
    (outcome : Outcome) :
    session.conclude id (.change change) outcome =
      ({ session with
          operations :=
            (session.operations.erase id).put change (.revalidating (waiting - 1) count) },
        .done id (.outcome (some outcome)) :: if waiting = 1 then [.queue change] else []) := by
  have kept : (session.operations.erase id).get? change = some (.revalidating waiting count) :=
    (Table.get?_erase_of_ne _ different).trans waits
  simp only [conclude, release, finish, kept]
  rfl

/-- A session in which nothing has changed but what concerns one validation, and what the change waits
for that started it. -/
structure Secluded (session : Session) (id change : OperationId) (uri : Uri) (result : Session) :
    Prop where
  documents : result.documents = session.documents
  general : result.general = session.general
  pulls : result.pulls = session.pulls
  operations : ∀ other, other ≠ id → other ≠ change →
    result.operations.get? other = session.operations.get? other
  settings : ∀ other, other ≠ uri → result.settings.get? other = session.settings.get? other
  latest : ∀ other, other ≠ uri → result.latest.get? other = session.latest.get? other

theorem secluded_refl (session : Session) (id change : OperationId) (uri : Uri) :
    Secluded session id change uri session := by
  constructor <;> intros <;> rfl

theorem secluded_keep (session : Session) (id change : OperationId) (uri : Uri)
    (settings : Settings) : Secluded session id change uri (session.keep uri settings) := by
  unfold keep
  split
  · refine ⟨rfl, rfl, rfl, fun _ _ _ => rfl, ?_, fun _ _ => rfl⟩
    exact fun other different => Table.get?_put_of_ne _ _ different
  · exact secluded_refl ..

end Session

namespace Scenario

open Session

/-! ### Forecasts -/

def Surroundings.host (surroundings : Surroundings) : Host :=
  World.host ({ toSurroundings := surroundings } : World Result)

/-- What the validations of a change depend on. -/
structure Circumstances where
  surroundings : Surroundings
  documents : Uri → Option Document
  general : Settings
  pulls : Bool

namespace Circumstances

/-- What is seen when the call of a check ends. -/
def shown (due limit : Nat) (version : Int) (ending : Compiler.Ending) : List (Nat × Sign) :=
  match Compiler.diagnostics ending with
  | .ok found => [(due, .saw (.shown (found.take limit) version))]
  | .error _ => []

/-- What is seen of a document whose validation knows its settings. -/
def checked (circumstances : Circumstances) (uri : Uri) (settings : Settings) (due : Nat) :
    List (Nat × Sign) :=
  match circumstances.surroundings.locate settings, circumstances.documents uri with
  | some executable, some document =>
    if circumstances.surroundings.broken then []
    else
      let (delay, ending) := circumstances.surroundings.answer due "" executable document.text
      (due, .saw (.called false executable document.text)) ::
        shown (due + delay) settings.maxDiagnostics document.version ending
  | _, _ => []

/-- What is seen of a document whose validation has its turn. -/
def validated (circumstances : Circumstances) (uri : Uri) (due : Nat) : List (Nat × Sign) :=
  if circumstances.pulls then
    let (delay, answer) := circumstances.surroundings.editor.settings due (some uri)
    (due, .asked) :: circumstances.checked uri (layered circumstances.general answer) (due + delay)
  else
    circumstances.checked uri circumstances.general due

end Circumstances

/-! ### Validations on their way -/

/-- What a validation waits for. -/
inductive Wait
  | turn (uri : Uri)
  /-- Its settings, which will come with an answer. -/
  | settings (uri : Uri) (answer : Option Json)
  /-- The end of its call. -/
  | ended (check : Check) (ending : Compiler.Ending)

namespace Wait

def uri : Wait → Uri
  | .turn uri => uri
  | .settings uri _ => uri
  | .ended check _ => check.uri

/-- Where a validation stands that a change has started. -/
def stage (change : OperationId) : Wait → Stage
  | .turn uri => .ready uri (.change change)
  | .settings uri _ => .fetching (.validate uri (.change change))
  | .ended check _ => .checking check

def input (id : OperationId) : Wait → Input
  | .turn _ => .turn id
  | .settings _ answer => .settings id answer
  | .ended _ ending => .ended id ending

/-- How many inputs are to come. -/
def weight : Wait → Nat
  | .turn _ => 3
  | .settings _ _ => 2
  | .ended _ _ => 1

/-- What a validation relies on: its settings are not known before it has its turn, and nobody else
checks its document. -/
def Relies (change : OperationId) (session : Session) : Wait → Prop
  | .turn uri => session.settings.get? uri = none
  | .settings _ _ => True
  | .ended check _ => check.cause = .change change ∧
      session.isCurrent check.uri check.revision = true

/-- What is yet to be seen of the document. -/
def outlook (circumstances : Circumstances) (due : Nat) : Wait → List (Nat × Sign)
  | .turn uri => circumstances.validated uri due
  | .settings uri answer => circumstances.checked uri (layered circumstances.general answer) due
  | .ended check ending => Circumstances.shown due check.limit check.version ending

end Wait

/-- A validation on its way, with what it waits for and the time at which that comes. -/
structure Errand where
  id : OperationId
  due : Nat
  wait : Wait

namespace Errand

/-- What is planned for a validation. -/
def entry (errand : Errand) : Nat × Input :=
  (errand.due, errand.wait.input errand.id)

def outlook (circumstances : Circumstances) (errand : Errand) : List (Nat × Sign) :=
  errand.wait.outlook circumstances errand.due

/-- Two validations are of different documents. -/
def Distinct (one other : Errand) : Prop :=
  one.id ≠ other.id ∧ one.wait.uri ≠ other.wait.uri

end Errand

/-- A session in which a change of the configuration waits for validations. -/
structure Serves (circumstances : Circumstances) (change : OperationId) (count : Nat)
    (session : Session) (errands : List Errand) : Prop where
  documents : session.documents.get? = circumstances.documents
  general : session.general = circumstances.general
  pulls : session.pulls = circumstances.pulls
  waits : session.operations.get? change = some (.revalidating errands.length count)
  stands : ∀ errand ∈ errands, change < errand.id ∧
    session.operations.get? errand.id = some (errand.wait.stage change) ∧
      errand.wait.Relies change session
  distinct : errands.Pairwise Errand.Distinct
  idle : ∀ id, id < change → session.operations.get? id = none

theorem due_afterDelay (now delay : Nat) : (World.afterDelay delay).due now = now + delay := by
  cases delay <;> rfl

/-- What is planned for the validations of a change. After the last, the change has its turn. -/
def schedule (change : OperationId) (due : Nat) : List Errand → List (Nat × Input)
  | [] => [(due, .turn change)]
  | errands => errands.map Errand.entry

/-- What an input does for the validation that waits for it: it ends, or waits for something else. -/
structure Advances (circumstances : Circumstances) (change : OperationId) (count : Nat)
    (errand : Errand) (rest : List Errand) (result : Session × List Effect) (next : Option Errand) :
    Prop where
  serves : Serves circumstances change count result.1 (next.toList ++ rest)
  same : ∀ later ∈ next, later.wait.uri = errand.wait.uri
  lighter : ∀ later ∈ next, later.wait.weight < errand.wait.weight
  plans : (result.2.flatMap (follows circumstances.surroundings errand.due)).map
      (fun item => (item.1.due errand.due, item.2)) ++ rest.map Errand.entry =
    schedule change errand.due (next.toList ++ rest)
  signs : ∀ uri, (signs uri result.1 result.2).map (errand.due, ·) ++
      (if errand.wait.uri = uri then (next.map (Errand.outlook circumstances)).getD [] else []) =
    if errand.wait.uri = uri then errand.outlook circumstances else []
  undone : ∀ outcome, .done change outcome ∉ result.2

namespace Serves

variable {circumstances : Circumstances} {change : OperationId} {count : Nat} {session : Session}
  {errand : Errand} {rest : List Errand}

theorem perm {one other : List Errand} (serves : Serves circumstances change count session one)
    (same : one.Perm other) : Serves circumstances change count session other where
  documents := serves.documents
  general := serves.general
  pulls := serves.pulls
  waits := same.length_eq ▸ serves.waits
  stands errand member := serves.stands errand (same.mem_iff.mpr member)
  distinct := (same.pairwise_iff fun distinct => ⟨distinct.1.symm, distinct.2.symm⟩).mp
    serves.distinct
  idle := serves.idle

/-- What does not concern a validation leaves it where it is. -/
theorem relies_secluded {result : Session} {id : OperationId} {uri : Uri} {wait : Wait}
    (relies : wait.Relies change session) (secluded : Secluded session id change uri result)
    (other : wait.uri ≠ uri) : wait.Relies change result := by
  cases wait with
  | turn document => exact (secluded.settings document other).trans relies
  | settings document answer => trivial
  | ended check ending =>
    obtain ⟨cause, current⟩ := relies
    refine ⟨cause, ?_⟩
    rw [isCurrent, isOpen, secluded.documents, secluded.latest check.uri other]
    exact current

/-- The session after something has been done for one of the validations. -/
theorem after (serves : Serves circumstances change count session (errand :: rest))
    {result : Session} (secluded : Secluded session errand.id change errand.wait.uri result)
    {next : Option Errand}
    (waits : result.operations.get? change =
      some (.revalidating (next.toList ++ rest).length count))
    (kept : ∀ later ∈ next, later.id = errand.id ∧ later.wait.uri = errand.wait.uri ∧
      result.operations.get? errand.id = some (later.wait.stage change) ∧
        later.wait.Relies change result) :
    Serves circumstances change count result (next.toList ++ rest) := by
  obtain ⟨apart, distinct⟩ := List.pairwise_cons.mp serves.distinct
  obtain ⟨own, -, -⟩ := serves.stands errand (List.mem_cons_self ..)
  refine ⟨?_, secluded.general.trans serves.general, secluded.pulls.trans serves.pulls, waits, ?_, ?_,
    ?_⟩
  · rw [secluded.documents]
    exact serves.documents
  · intro other member
    rcases List.mem_append.mp member with new | old
    · obtain ⟨same, -, stands, relies⟩ := kept other (Option.mem_toList.mp new)
      rw [same]
      exact ⟨own, stands, relies⟩
    · obtain ⟨above, stands, relies⟩ := serves.stands other (List.mem_cons_of_mem _ old)
      obtain ⟨different, unlike⟩ := apart other old
      refine ⟨above, ?_, relies_secluded relies secluded unlike.symm⟩
      rw [secluded.operations _ different.symm (Nat.ne_of_gt above)]
      exact stands
  · refine List.pairwise_append.mpr ⟨?_, distinct, ?_⟩
    · cases next with
      | none => exact .nil
      | some later => exact List.pairwise_singleton ..
    · intro later new other old
      obtain ⟨same, alike, -, -⟩ := kept later (Option.mem_toList.mp new)
      rw [Errand.Distinct, same, alike]
      exact apart other old
  · intro id below
    rw [secluded.operations _ (Nat.ne_of_lt (Nat.lt_trans below own)) (Nat.ne_of_lt below)]
    exact serves.idle id below

/-- A validation ends: it is seen what was to be seen, and the change waits for one less. -/
theorem concludes (serves : Serves circumstances change count session (errand :: rest))
    {base : Session} (secluded : Secluded session errand.id change errand.wait.uri base)
    (same : base.operations = session.operations) (outcome : Outcome) {earlier : List Effect}
    (mute : Mute earlier) (undone : ∀ outcome, .done change outcome ∉ earlier)
    (seen : ∀ uri after, (signs uri after earlier).map (errand.due, ·) =
      if errand.wait.uri = uri then errand.outlook circumstances else []) :
    Advances circumstances change count errand rest
      ((base.conclude errand.id (.change change) outcome).1,
        earlier ++ (base.conclude errand.id (.change change) outcome).2) none := by
  obtain ⟨own, -, -⟩ := serves.stands errand (List.mem_cons_self ..)
  have different : change ≠ errand.id := Nat.ne_of_lt own
  have waits : base.operations.get? change = some (.revalidating (rest.length + 1) count) :=
    (congrArg (·.get? change) same).trans serves.waits
  rw [conclude_waited different waits outcome]
  refine ⟨serves.after ?_ (Table.get?_put_self ..) (by simp), by simp, by simp, ?_, ?_, ?_⟩
  · refine ⟨secluded.documents, secluded.general, secluded.pulls, ?_, secluded.settings,
      secluded.latest⟩
    intro other unlike apart
    rw [Table.get?_put_of_ne _ _ apart, Table.get?_erase_of_ne _ unlike]
    exact secluded.operations other unlike apart
  · rw [List.flatMap_append, mute]
    cases rest with
    | nil => rfl
    | cons next others => rfl
  · intro uri
    have ends : ∀ after, signs uri after (.done errand.id (.outcome (some outcome)) ::
        if rest.length + 1 = 1 then [.queue change] else []) = [] := by
      intro after
      split <;> rfl
    rw [signs_append, ends, List.append_nil, seen]
    simp
  · intro outcome member
    rcases List.mem_append.mp member with before | after
    · exact undone outcome before
    · rcases List.mem_cons.mp after with same | queued
      · exact different (Effect.done.inj same).1
      · split at queued
        · cases List.mem_singleton.mp queued
        · cases queued

theorem vanishes (serves : Serves circumstances change count session (errand :: rest))
    {base : Session} (secluded : Secluded session errand.id change errand.wait.uri base)
    (same : base.operations = session.operations) (outcome : Outcome) {notices : List Effect}
    (told : Notices notices) (unseen : errand.outlook circumstances = []) :
    Advances circumstances change count errand rest
      ((base.conclude errand.id (.change change) outcome).1,
        notices ++ (base.conclude errand.id (.change change) outcome).2) none := by
  refine serves.concludes secluded same outcome told.mute (told.undone change) ?_
  intro uri after
  rw [told.signs, unseen]
  simp

/-- A validation goes on: one thing is seen, and it waits for what follows. -/
theorem proceeds (sign : Sign) {result : Session} {effect : Effect} {later : Errand}
    (serves : Serves circumstances change count result ((some later).toList ++ rest))
    (same : later.wait.uri = errand.wait.uri) (lighter : later.wait.weight < errand.wait.weight)
    (plans : ∃ time : Agenda.When, later.due = time.due errand.due ∧
      follows circumstances.surroundings errand.due effect = [(time, later.wait.input later.id)])
    (seen : ∀ uri, effect.sign? uri result = if errand.wait.uri = uri then some sign else none)
    (outlook : errand.outlook circumstances = (errand.due, sign) :: later.outlook circumstances)
    (undone : ∀ outcome, effect ≠ .done change outcome) :
    Advances circumstances change count errand rest (result, [effect]) (some later) := by
  obtain ⟨time, due, follow⟩ := plans
  refine ⟨serves, ?_, ?_, ?_, ?_, ?_⟩
  · rintro next ⟨⟩
    exact same
  · rintro next ⟨⟩
    exact lighter
  · rw [List.flatMap_cons, follow]
    simp [schedule, Errand.entry, due]
  · intro uri
    rw [outlook]
    by_cases about : errand.wait.uri = uri
    · simp [signs, seen, about]
    · simp [signs, seen, about]
  · intro outcome member
    exact undone outcome (List.mem_singleton.mp member).symm

section Checks

variable (serves : Serves circumstances change count session (errand :: rest)) {base : Session}
  (secluded : Secluded session errand.id change errand.wait.uri base)
  (same : base.operations = session.operations) {settings : Settings}
  (outlook : errand.outlook circumstances =
    circumstances.checked errand.wait.uri settings errand.due)

include serves secluded same outlook

theorem skips (missing : circumstances.surroundings.locate settings = none ∨
      circumstances.documents errand.wait.uri = none) :
    Advances circumstances change count errand rest
      (base.check circumstances.surroundings.host errand.id errand.wait.uri (.change change)
        settings) none := by
  obtain ⟨warned, notices, told, resolves⟩ := resolve_eq circumstances.surroundings.host base settings
  have absent : circumstances.surroundings.host.locate settings = none ∨
      base.documents.get? errand.wait.uri = none := by
    rw [secluded.documents, serves.documents]
    exact missing
  rw [check_skipped _ _ _ _ _ _ absent, resolves]
  have found : Secluded session errand.id change errand.wait.uri { base with
      compiler := circumstances.surroundings.host.locate settings, warned := warned } :=
    ⟨secluded.documents, secluded.general, secluded.pulls, secluded.operations, secluded.settings,
      secluded.latest⟩
  refine serves.vanishes found same _ told ?_
  rw [outlook, Circumstances.checked]
  split
  · rename_i executable document located present
    rw [located, present] at missing
    simp at missing
  · rfl

section

variable {executable : Path} {document : Document}
  (found : circumstances.surroundings.locate settings = some executable)
  (present : circumstances.documents errand.wait.uri = some document)

include found present

omit same outlook found in
theorem present_secluded : base.documents.get? errand.wait.uri = some document := by
  rw [secluded.documents, serves.documents]
  exact present

omit serves same outlook found present in
theorem secluded_draws (executable : Option Path) :
    Secluded session errand.id change errand.wait.uri
      ({ base with compiler := executable }.drawRevision errand.wait.uri).1 := by
  refine ⟨secluded.documents, secluded.general, secluded.pulls, secluded.operations,
    secluded.settings, ?_⟩
  intro other different
  rw [drawRevision, Table.get?_put_of_ne _ _ different]
  exact secluded.latest other different

theorem fails (broken : circumstances.surroundings.broken = true) :
    Advances circumstances change count errand rest
      (base.check circumstances.surroundings.host errand.id errand.wait.uri (.change change)
        settings) none := by
  have missing : circumstances.surroundings.host.scratch errand.id = none := by
    simp [Surroundings.host, World.host, broken]
  rw [check_failed _ _ _ _ _ _ executable document found (present_secluded serves secluded present)
    missing]
  have told : Notices [] := by simp [Notices]
  refine serves.vanishes (secluded_draws secluded (some executable)) same _ told ?_
  rw [outlook, Circumstances.checked, found, present]
  simp [broken]

omit outlook found in
theorem called (due : Nat) (file : Path) (ending : Compiler.Ending) :
    let check : Check := ⟨errand.wait.uri, .change change, base.revision + 1, document.version,
      settings.maxDiagnostics, executable, file⟩
    Serves circumstances change count
      ((({ base with compiler := some executable }.drawRevision errand.wait.uri).1.store file
        document.text).suspend errand.id (.checking check))
      ((some ⟨errand.id, due, .ended check ending⟩ : Option Errand).toList ++ rest) := by
  intro check
  obtain ⟨own, -, -⟩ := serves.stands errand (List.mem_cons_self ..)
  have draws := secluded_draws secluded (some executable)
  refine serves.after ?_ ?_ ?_
  · refine ⟨draws.documents, draws.general, draws.pulls, ?_, draws.settings, draws.latest⟩
    intro other unlike apart
    exact (Table.get?_put_of_ne _ _ unlike).trans (draws.operations other unlike apart)
  · refine (Table.get?_put_of_ne _ _ (Nat.ne_of_lt own)).trans ?_
    exact (congrArg (·.get? change) same).trans serves.waits
  · rintro later ⟨⟩
    refine ⟨rfl, rfl, Table.get?_put_self .., rfl, ?_⟩
    have opened : base.isOpen errand.wait.uri = true :=
      (Table.contains_iff ..).mpr ⟨document, present_secluded serves secluded present⟩
    have latest : (base.latest.put errand.wait.uri (base.revision + 1)).get? errand.wait.uri =
        some (base.revision + 1) := Table.get?_put_self ..
    change (base.isOpen errand.wait.uri && _ == some (base.revision + 1)) = true
    rw [opened]
    exact beq_iff_eq.mpr latest

theorem calls (blind : circumstances.surroundings.compiler.Blind)
    (heavy : 1 < errand.wait.weight) (able : circumstances.surroundings.broken = false) :
    ∃ later, Advances circumstances change count errand rest
      (base.check circumstances.surroundings.host errand.id errand.wait.uri (.change change)
        settings) (some later) := by
  let file := Scratch.filePath errand.id
  let answer := circumstances.surroundings.answer errand.due file executable document.text
  have made : circumstances.surroundings.host.scratch errand.id = some file := by
    simp [Surroundings.host, World.host, able, file]
  rw [check_called _ _ _ _ _ _ executable file document found
    (present_secluded serves secluded present) made]
  refine ⟨_, proceeds (.saw (.called false executable document.text))
    (called serves secluded same present (errand.due + answer.1) file answer.2) rfl heavy ?_ ?_ ?_ ?_⟩
  · exact ⟨World.afterDelay answer.1, (due_afterDelay _ _).symm, rfl⟩
  · intro uri
    simp only [Effect.sign?, Effect.sight?, standing?_suspend_self, Stage.standing?]
    by_cases about : errand.wait.uri = uri
    · simp [about]
    · simp [about]
  · rw [outlook, Circumstances.checked, found, present]
    simp only [able, Bool.false_eq_true, if_false]
    rw [Portrait.answer_eq blind errand.due "" file]
    rfl
  · intro outcome absurdity
    cases absurdity

end

/-- A validation whose settings are known calls the compiler or ends. -/
theorem checks (blind : circumstances.surroundings.compiler.Blind)
    (heavy : 1 < errand.wait.weight) :
    ∃ next, Advances circumstances change count errand rest
      (base.check circumstances.surroundings.host errand.id errand.wait.uri (.change change)
        settings) next := by
  cases found : circumstances.surroundings.locate settings with
  | none => exact ⟨none, skips serves secluded same outlook (.inl found)⟩
  | some executable =>
    cases present : circumstances.documents errand.wait.uri with
    | none => exact ⟨none, skips serves secluded same outlook (.inr present)⟩
    | some document =>
      cases broken : circumstances.surroundings.broken with
      | true => exact ⟨none, fails serves secluded same outlook found present broken⟩
      | false =>
        obtain ⟨later, advances⟩ :=
          calls serves secluded same outlook found present blind heavy broken
        exact ⟨some later, advances⟩

end Checks

/-- A validation that has its turn asks for its settings, or knows them. -/
theorem advances_turn {id : OperationId} {due : Nat} {uri : Uri}
    (serves : Serves circumstances change count session (⟨id, due, .turn uri⟩ :: rest))
    (blind : circumstances.surroundings.compiler.Blind) :
    ∃ next, Advances circumstances change count ⟨id, due, .turn uri⟩ rest
      (session.step circumstances.surroundings.host (.turn id)) next := by
  obtain ⟨own, stands, relies⟩ := serves.stands _ (List.mem_cons_self ..)
  have begins : session.step circumstances.surroundings.host (.turn id) =
      session.validate circumstances.surroundings.host id uri (.change change) := by
    have waits : session.operations.get? id = some (.ready uri (.change change)) := stands
    simp only [step, waits]
  rw [begins, validate]
  cases pulled : circumstances.pulls with
  | false =>
    have known : session.settings? uri = some circumstances.general := by
      rw [settings?, serves.pulls, pulled, ← serves.general]
      rfl
    rw [known]
    refine serves.checks (secluded_refl ..) rfl ?_ blind (by decide : 1 < 3)
    simp [Errand.outlook, Wait.outlook, Circumstances.validated, pulled, Wait.uri]
  | true =>
    have unknown : session.settings? uri = none := by
      rw [settings?, serves.pulls, pulled]
      exact relies
    let answer := circumstances.surroundings.editor.settings due (some uri)
    rw [unknown]
    refine ⟨some ⟨id, due + answer.1, .settings uri answer.2⟩,
      proceeds .asked ?_ rfl (by decide : 2 < 3) ?_ ?_ ?_ ?_⟩
    · refine serves.after ?_ ?_ ?_
      · refine ⟨rfl, rfl, rfl, ?_, fun _ _ => rfl, fun _ _ => rfl⟩
        exact fun other unlike _ => Table.get?_put_of_ne _ _ unlike
      · exact (Table.get?_put_of_ne _ _ (Nat.ne_of_lt own)).trans serves.waits
      · rintro later ⟨⟩
        exact ⟨rfl, rfl, Table.get?_put_self .., trivial⟩
    · exact ⟨World.afterDelay answer.1, (due_afterDelay _ _).symm, rfl⟩
    · intro other
      by_cases about : uri = other
      · simp [Effect.sign?, Wait.uri, about]
      · simp [Effect.sign?, Wait.uri, about]
    · simp [Errand.outlook, Wait.outlook, Circumstances.validated, pulled, answer]
    · intro outcome absurdity
      cases absurdity

theorem advances_settings {id : OperationId} {due : Nat} {uri : Uri} {answer : Option Json}
    (serves : Serves circumstances change count session (⟨id, due, .settings uri answer⟩ :: rest))
    (blind : circumstances.surroundings.compiler.Blind) :
    ∃ next, Advances circumstances change count ⟨id, due, .settings uri answer⟩ rest
      (session.step circumstances.surroundings.host (.settings id answer)) next := by
  obtain ⟨own, stands, -⟩ := serves.stands _ (List.mem_cons_self ..)
  have goes : session.step circumstances.surroundings.host (.settings id answer) =
      (session.keep uri (layered session.general answer)).check circumstances.surroundings.host id uri
        (.change change) (layered session.general answer) := by
    have waits : session.operations.get? id = some (.fetching (.validate uri (.change change))) :=
      stands
    simp only [step, waits]
    rfl
  rw [goes, serves.general]
  exact serves.checks (secluded_keep ..) (operations_keep ..) rfl blind (by decide : 1 < 2)

theorem advances_ended {id : OperationId} {due : Nat} {check : Check} {ending : Compiler.Ending}
    (serves : Serves circumstances change count session (⟨id, due, .ended check ending⟩ :: rest)) :
    Advances circumstances change count ⟨id, due, .ended check ending⟩ rest
      (session.step circumstances.surroundings.host (.ended id ending)) none := by
  obtain ⟨own, stands, caused, current⟩ := serves.stands _ (List.mem_cons_self ..)
  have ends : session.step circumstances.surroundings.host (.ended id ending) =
      session.checked id check ending := by
    have waits : session.operations.get? id = some (.checking check) := stands
    simp only [step, waits]
  have discards : ∀ alarmed, Secluded session id change check.uri
      { session.discard check.scratch with alarmed := alarmed } := by
    intro alarmed
    constructor <;> intros <;> rfl
  rw [ends, checked, caused]
  cases found : Compiler.diagnostics ending with
  | error fault =>
    obtain ⟨alarmed, notices, told, alarms⟩ :=
      alarm_eq (session.discard check.scratch) (fault.message check.executable)
    simp only [alarms]
    refine serves.vanishes (discards alarmed) rfl .failed told ?_
    simp [Errand.outlook, Wait.outlook, Circumstances.shown, found]
  | ok diagnostics =>
    have shows : (session.discard check.scratch).isCurrent check.uri check.revision = true := current
    simp only [shows, if_true]
    have mute : Mute [.publish check (diagnostics.take check.limit)] := fun _ _ => rfl
    refine serves.concludes (discards session.alarmed) rfl _ mute (by simp) ?_
    intro uri after
    by_cases about : check.uri = uri
    · simp [signs, Effect.sign?, Effect.sight?, Errand.outlook, Wait.outlook, Circumstances.shown,
        found, Wait.uri, about]
    · simp [signs, Effect.sign?, Effect.sight?, Wait.uri, about]

/-- The input that a validation waits for takes it further, and no other validation is concerned. -/
theorem advances (serves : Serves circumstances change count session (errand :: rest))
    (blind : circumstances.surroundings.compiler.Blind) :
    ∃ next, Advances circumstances change count errand rest
      (session.step circumstances.surroundings.host (errand.wait.input errand.id)) next := by
  obtain ⟨id, due, wait⟩ := errand
  cases wait with
  | turn uri => exact serves.advances_turn blind
  | settings uri answer => exact serves.advances_settings blind
  | ended check ending => exact ⟨none, serves.advances_ended⟩

end Serves

end Scenario

end LanguageServer
