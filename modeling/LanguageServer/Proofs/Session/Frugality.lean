import LanguageServer.Proofs.Session.Configuration
import LanguageServer.Proofs.Session.Expectation

/-! How often the editor is asked for the settings of a document. If operations do not overlap, it is
asked once while the document stays open and the configuration does not change. The answer is kept, and
all that needs the settings of the document goes by it. -/

namespace LanguageServer.Session

/-! ### Operations that do not overlap -/

theorem Needs.of_fetching {session : Session} {id : OperationId} {task : Task}
    (waits : session.operations.get? id = some (.fetching task)) : session.Needs id task.uri :=
  ⟨.fetching task, expects?_of_operation waits, rfl⟩

theorem Moment.Answers.needs {moment : Moment} {id : OperationId} {uri : Uri} {settings : Settings}
    (answers : moment.Answers id uri settings) : moment.session.Needs id uri := by
  obtain ⟨host, answer, task, -, waits, rfl, -⟩ := answers
  exact .of_fetching waits

/-- A moment answers one operation. -/
theorem Moment.Answers.unique {moment : Moment} {one other : OperationId} {uri scope : Uri}
    {settings given : Settings} (first : moment.Answers one uri settings)
    (second : moment.Answers other scope given) : one = other ∧ uri = scope ∧ settings = given := by
  obtain ⟨host, answer, task, now, waits, rfl, rfl⟩ := first
  obtain ⟨_, _, task', now', waits', rfl, rfl⟩ := second
  obtain ⟨-, same⟩ := Impulse.input.inj (now.symm.trans now')
  obtain ⟨rfl, rfl⟩ := Input.settings.inj same
  obtain rfl : task = task' := by simpa using waits.symm.trans waits'
  exact ⟨rfl, rfl, rfl⟩

/-- No operation of a run begins while another is under way. -/
def Separate (run : List Moment) : Prop :=
  ∀ moment ∈ run, moment.Calm

namespace Moment

variable {moment : Moment} {id one other : OperationId} {uri : Uri}

/-- Documents that were made ready for validation are different ones. -/
theorem FannedOut.unique (fanned : moment.FannedOut)
    (distinct : moment.session.documents.keys.Nodup) (first : moment.after.Needs one uri)
    (second : moment.after.Needs other uri) : one = other := by
  obtain ⟨change, start, spread⟩ := fanned
  obtain ⟨stage, expects, about⟩ := first
  obtain ⟨stage', expects', about'⟩ := second
  obtain ⟨place, scope, rfl, here, rfl⟩ := spread _ _ expects
  obtain ⟨place', scope', rfl, there, rfl⟩ := spread _ _ expects'
  obtain rfl := Option.some.inj about
  obtain rfl := Option.some.inj about'
  obtain ⟨inside, -⟩ := List.getElem?_eq_some_iff.mp here
  rw [(List.getElem?_inj inside distinct).mp (here.trans there.symm)]

theorem FannedOut.not_reconfiguring (fanned : moment.FannedOut) (general : Settings) :
    moment.after.expects? id ≠ some (.reconfiguring general) := by
  obtain ⟨change, start, spread⟩ := fanned
  intro expects
  obtain ⟨place, scope, -, -, same⟩ := spread _ _ expects
  cases same

end Moment

/-! ### What is known after a moment -/

theorem settings_source {moment : Moment} {uri : Uri} {settings : Settings}
    (kept : moment.after.settings.get? uri = some settings) :
    (∃ id, moment.Answers id uri settings) ∨
      moment.session.settings.get? uri = some settings ∧ ¬ moment.Invalidates uri := by
  rw [moment.settings_after] at kept
  rcases settings_enter _ _ uri settings kept with informed | ⟨before, unclosed, unchanged⟩
  · exact .inl (Moment.answers_of_informed informed)
  · refine .inr ⟨before, fun invalidates => ?_⟩
    rcases Moment.entry_of_invalidates invalidates with closed | ⟨pushed, configured⟩
    · exact unclosed closed
    · exact unchanged pushed configured

/-- Where nothing is known and no settings arrive, nothing is known afterwards. -/
theorem settings_blank {moment : Moment} (unanswered : moment.Unanswered)
    (blank : ∀ uri, moment.session.settings.get? uri = none) (uri : Uri) :
    moment.after.settings.get? uri = none := by
  cases known : moment.after.settings.get? uri with
  | none => rfl
  | some settings =>
    rcases settings_source known with ⟨answered, answers⟩ | ⟨earlier, -⟩
    · exact absurd answers (unanswered _ _ _)
    · simp [blank] at earlier

theorem settings_configured {moment : Moment} {host : Host} {pushed : Option Settings}
    (now : moment.impulse = .input host (.start (.configure pushed))) (uri : Uri) :
    moment.after.settings.get? uri = none := by
  rw [moment.settings_after, Moment.entered, now]
  rfl

namespace Moment.Dealing

variable {moment : Moment} {id one other : OperationId} {uri : Uri}

/-- Who is answered expects nothing any more. -/
theorem not_needs_of_answers (dealing : moment.Dealing) {scope : Uri} {settings : Settings}
    (answers : moment.Answers id scope settings) : ¬ moment.after.Needs id uri := by
  cases dealing with
  | asks asker asked task about seeks waits => exact absurd answers (seeks.unanswered _ _ _)
  | learns learner learned given heard goes unasked =>
    obtain ⟨rfl, -, -⟩ := answers.unique heard
    rintro ⟨stage, expects, -⟩
    rw [goes, if_pos rfl] at expects
    cases expects
  | configures host pushed now reaches unasked =>
    obtain ⟨_, answer, task, heard, -⟩ := answers
    rw [now] at heard
    cases heard
  | spreads change general waits reaches unasked unanswered => exact absurd answers (unanswered _ _ _)
  | passes kept unasked unanswered => exact absurd answers (unanswered _ _ _)

/-- Whoever needs settings after a moment needed them before, has just asked for them, or is one of
those that a change of the configuration has made ready. Then nothing is known. -/
theorem needs_after (dealing : moment.Dealing) (frugal : moment.session.Frugal)
    (needs : moment.after.Needs id uri) :
    moment.session.Needs id uri ∨ moment.Seeks id uri ∨
      moment.FannedOut ∧ ∀ scope, moment.after.settings.get? scope = none := by
  obtain ⟨stage, expects, concerns⟩ := needs
  cases dealing with
  | asks asker asked task about seeks waits =>
    rw [waits] at expects
    split at expects
    · rename_i same
      obtain rfl := Option.some.inj expects
      obtain rfl : asked = uri := about.symm.trans (Option.some.inj concerns)
      exact .inr (.inl (same ▸ seeks))
    · exact .inl ⟨stage, expects, concerns⟩
  | learns learner learned given heard goes unasked =>
    rw [goes] at expects
    split at expects
    · cases expects
    · exact .inl ⟨stage, expects, concerns⟩
  | configures host pushed now reaches unasked =>
    rcases reaches with fanned | ⟨change, general, waits⟩
    · exact .inr (.inr ⟨fanned, settings_configured now⟩)
    · rw [waits] at expects
      split at expects
      · obtain rfl := Option.some.inj expects
        cases concerns
      · cases expects
  | spreads change general waits reaches unasked unanswered =>
    exact .inr (.inr ⟨reaches, settings_blank unanswered (frugal.alone waits).2⟩)
  | passes kept unasked unanswered =>
    rcases kept id with same | ⟨gone, -⟩
    · exact .inl ⟨stage, same ▸ expects, concerns⟩
    · rw [gone] at expects
      cases expects

end Moment.Dealing

/-- Whoever needed the settings before that are asked for is the one that asks. -/
theorem Moment.Seeks.unique {moment : Moment} {id other : OperationId} {uri : Uri}
    (seeks : moment.Seeks id uri) (frugal : moment.session.Frugal)
    (needs : moment.session.Needs other uri) : other = id := by
  rcases seeks.source with free | ⟨cause, ready⟩
  · obtain ⟨stage, expects, -⟩ := needs
    rw [free] at expects
    cases expects
  · exact frugal.unique needs ⟨_, ready, rfl⟩

namespace Frugal

variable {moment : Moment} {id one other : OperationId} {uri : Uri}

theorem unique_after (frugal : moment.session.Frugal) (dealing : moment.Dealing)
    (first : moment.after.Needs one uri) (second : moment.after.Needs other uri) : one = other := by
  rcases dealing.needs_after frugal first with before | seeks | ⟨fanned, -⟩
  · rcases dealing.needs_after frugal second with also | seeks | ⟨fanned, -⟩
    · exact frugal.unique before also
    · exact seeks.unique frugal before
    · exact fanned.unique frugal.distinct first second
  · rcases dealing.needs_after frugal second with before | sought | ⟨fanned, -⟩
    · exact (seeks.unique frugal before).symm
    · simpa using seeks.fetches.symm.trans sought.fetches
    · exact fanned.unique frugal.distinct first second
  · exact fanned.unique frugal.distinct first second

theorem unknown_after (frugal : moment.session.Frugal) (dealing : moment.Dealing)
    (needs : moment.after.Needs id uri) : moment.after.settings.get? uri = none := by
  cases known : moment.after.settings.get? uri with
  | none => rfl
  | some settings =>
    exfalso
    rcases dealing.needs_after frugal needs with before | seeks | ⟨-, blank⟩
    · rcases settings_source known with ⟨answered, answers⟩ | ⟨kept, -⟩
      · obtain rfl := frugal.unique answers.needs before
        exact dealing.not_needs_of_answers answers needs
      · simp [frugal.unknown before] at kept
    · rcases settings_source known with ⟨answered, answers⟩ | ⟨kept, -⟩
      · exact seeks.unanswered _ _ _ answers
      · simp [seeks.unknown] at kept
    · simp [blank] at known

/-- A change of the configuration that expects an answer after a moment has just begun, or expected it
before. -/
theorem alone_after (frugal : moment.session.Frugal) (dealing : moment.Dealing) {general : Settings}
    (expects : moment.after.expects? id = some (.reconfiguring general)) :
    (∀ other, other ≠ id → moment.after.expects? other = none) ∧
      ∀ uri, moment.after.settings.get? uri = none := by
  cases dealing with
  | asks asker asked task about seeks waits =>
    rw [waits] at expects
    split at expects
    · cases expects
    · rename_i different
      rcases seeks.source with free | ⟨cause, ready⟩
      · rw [free] at expects
        cases expects
      · rw [(frugal.alone expects).1 asker (Ne.symm different)] at ready
        cases ready
  | learns learner learned given answers goes unasked =>
    rw [goes] at expects
    split at expects
    · cases expects
    · rename_i different
      obtain ⟨stage, waits, -⟩ := answers.needs
      rw [(frugal.alone expects).1 learner (Ne.symm different)] at waits
      cases waits
  | configures host pushed now reaches unasked =>
    rcases reaches with fanned | ⟨change, held, waits⟩
    · exact absurd expects (fanned.not_reconfiguring general)
    · refine ⟨fun other different => ?_, settings_configured now⟩
      rw [waits] at expects ⊢
      split at expects
      · rename_i same
        exact if_neg (same ▸ different)
      · cases expects
  | spreads change held waits reaches unasked unanswered =>
    exact absurd expects (reaches.not_reconfiguring general)
  | passes kept unasked unanswered =>
    have before : moment.session.expects? id = some (.reconfiguring general) := by
      rcases kept id with same | ⟨gone, -⟩
      · exact same.symm.trans expects
      · rw [gone] at expects
        cases expects
    obtain ⟨others, blank⟩ := frugal.alone before
    refine ⟨fun other different => ?_, settings_blank unanswered blank⟩
    rcases kept other with same | ⟨gone, -⟩
    · exact same.trans (others other different)
    · exact gone

theorem after (frugal : moment.session.Frugal) (calm : moment.Calm) : moment.after.Frugal := by
  have dealing := moment.dealing frugal calm
  refine ⟨?_, frugal.unique_after dealing, frugal.unknown_after dealing, frugal.alone_after dealing⟩
  rw [moment.documents_after.1]
  exact nodup_keys_enter moment.session.books _ frugal.distinct

end Frugal

theorem frugal_fresh (general : Settings) : (fresh general).Frugal := by
  have free : ∀ id, (fresh general).expects? id = none := fun id => rfl
  refine ⟨List.nodup_nil, ?_, ?_, ?_⟩
  · rintro one other uri ⟨stage, expects, -⟩
    rw [free] at expects
    cases expects
  · intro id uri _
    rfl
  · intro id general expects
    rw [free] at expects
    cases expects

theorem Frugal.run {session : Session} (frugal : session.Frugal) (impulses : List Impulse)
    (separate : Separate (session.moments impulses)) : (session.after impulses).Frugal := by
  induction impulses generalizing session with
  | nil => exact frugal
  | cons impulse rest ih =>
    have calm : Moment.Calm ⟨session, impulse⟩ := separate _ (List.mem_cons_self ..)
    exact ih (frugal.after calm) fun moment member => separate moment (List.mem_cons_of_mem _ member)

/-! ### Stretches of a run in which a document stays open -/

/-- The operation that asks for the settings of a document in an effect. -/
def Effect.request? (uri : Uri) : Effect → Option OperationId
  | .fetch id (some scope) => if scope = uri then some id else none
  | _ => none

/-- The document whose settings a stage waits for. -/
def Stage.awaited? : Stage → Option Uri
  | .fetching task => some task.uri
  | _ => none

namespace Moment

/-- The operations that ask for the settings of a document in a moment. -/
def requests (moment : Moment) (uri : Uri) : List OperationId :=
  moment.effects.filterMap (Effect.request? uri)

/-- Whether an operation is abandoned that waits for the settings of a document. -/
def drops (moment : Moment) (uri : Uri) : Bool :=
  match moment.impulse with
  | .input _ (.abandon id) => (moment.session.operations.get? id).bind Stage.awaited? == some uri
  | _ => false

/-- The editor can be asked, a document is open afterwards, and the configuration does not change. -/
structure Keeps (moment : Moment) (uri : Uri) : Prop where
  pulls : moment.session.pulls = true
  stays : moment.after.isOpen uri = true
  unchanged : ∀ host settings, moment.impulse ≠ .input host (.start (.configure settings))

end Moment

def requestsFor (uri : Uri) (moments : List Moment) : List OperationId :=
  moments.flatMap fun moment => moment.requests uri

/-- How many operations are abandoned that wait for the settings of a document. -/
def dropsOf (uri : Uri) (moments : List Moment) : Nat :=
  moments.countP fun moment => moment.drops uri

/-- The settings of a document are known or have been asked for. -/
def Provided (session : Session) (uri : Uri) : Prop :=
  (∃ id, session.Awaits id uri) ∨ ∃ settings, session.settings.get? uri = some settings

namespace Moment

variable {moment : Moment} {uri : Uri} {id : OperationId} {settings : Settings}

/-- What is known stays known, unless something else is said about it. -/
theorem settings_kept (books : Books) (entry : Entry)
    (known : books.settings.get? uri = some settings) :
    (books.enter entry).settings.get? uri = some settings ∨ entry = .closed uri ∨
      (∃ pushed, entry = .configured pushed) ∨ ∃ given, entry = .informed uri given := by
  cases entry with
  | closed other =>
    by_cases same : uri = other
    · exact .inr (.inl (by rw [same]))
    · exact .inl ((Table.get?_erase_of_ne _ same).trans known)
  | configured pushed => exact .inr (.inr (.inl ⟨pushed, rfl⟩))
  | informed other given =>
    by_cases same : uri = other
    · exact .inr (.inr (.inr ⟨given, by rw [same]⟩))
    · left
      simp only [Books.enter]
      split
      · exact (Table.get?_put_of_ne _ _ same).trans known
      · exact known
  | changed other text version =>
    left
    simp only [Books.enter]
    split <;> exact known
  | _ => exact .inl known

namespace Keeps

theorem not_closed (keeps : moment.Keeps uri) :
    moment.session.entry moment.impulse ≠ .closed uri := by
  intro closed
  have stays := keeps.stays
  rw [isOpen, moment.documents_after.1, entered, closed, Books.enter, Table.contains_erase] at stays
  exact stays.1 rfl

/-- What is known stays known, since nobody waits for what is known. -/
theorem known_after (keeps : moment.Keeps uri) (frugal : moment.session.Frugal)
    (known : moment.session.settings.get? uri = some settings) :
    moment.after.settings.get? uri = some settings := by
  rw [moment.settings_after]
  rcases settings_kept moment.session.books (moment.session.entry moment.impulse) known with
    kept | closed | ⟨pushed, configured⟩ | ⟨given, informed⟩
  · exact kept
  · exact absurd closed keeps.not_closed
  · obtain ⟨host, now⟩ := configures_of_entry configured
    exact absurd now (keeps.unchanged host pushed)
  · obtain ⟨id, answers⟩ := answers_of_informed informed
    rw [frugal.unknown answers.needs] at known
    cases known

/-- An answer for a document that stays open is kept. -/
theorem learned (keeps : moment.Keeps uri) (answers : moment.Answers id uri settings) :
    moment.after.settings.get? uri = some settings := by
  obtain ⟨host, answer, task, now, waits, rfl, rfl⟩ := answers
  have stays := keeps.stays
  have entry : moment.session.entry moment.impulse =
      .informed task.uri (layered moment.session.general answer) := by
    simp only [now, Session.entry, waits]
  rw [isOpen, moment.documents_after.1, entered, entry] at stays
  rw [moment.settings_after, entered, entry]
  simp only [Books.enter] at stays ⊢
  split at stays
  · rw [if_pos ‹_›]
    exact Table.get?_put_self ..
  · exact absurd stays ‹_›

/-- What is used for a document in a moment is known afterwards. -/
theorem used_known (keeps : moment.Keeps uri) (frugal : moment.session.Frugal) (lookup : Lookup)
    (made : moment.lookup? = some lookup) (scope : lookup.scope = some uri) :
    moment.after.settings.get? uri = some lookup.settings := by
  cases (Moment.basis made).1 with
  | known other same settings =>
    obtain rfl := Option.some.inj (same.symm.trans scope)
    rw [settings?, if_pos keeps.pulls] at settings
    exact keeps.known_after frugal settings
  | answered host id task answer now waits same settings =>
    exact keeps.learned ⟨host, answer, task, now, waits, Option.some.inj (same.symm.trans scope),
      settings⟩
  | pushed host given now off same settings =>
    rw [same] at scope
    cases scope
  | pulled host id general answer now waits same settings =>
    rw [same] at scope
    cases scope

end Keeps

theorem Unasked.requests (unasked : moment.Unasked) (uri : Uri) : moment.requests uri = [] := by
  refine List.filterMap_eq_nil_iff.mpr fun effect member => ?_
  cases effect with
  | fetch id scope =>
    cases scope with
    | none => rfl
    | some scope =>
      refine if_neg ?_
      rintro rfl
      exact unasked id scope member
  | _ => rfl

theorem Seeks.not_fetching (seeks : moment.Seeks id uri) {task : Task} :
    moment.session.operations.get? id ≠ some (.fetching task) := by
  intro fetching
  have expects : moment.session.expects? id = some (.fetching task) := expects?_of_operation fetching
  rcases seeks.source with free | ⟨cause, ready⟩
  · rw [free] at expects
    cases expects
  · rw [expects] at ready
    cases ready

/-- A request for settings is the only one of its moment, and is made for settings that are neither
known nor asked for. -/
theorem requests_cases (uri : Uri) (frugal : moment.session.Frugal) (dealing : moment.Dealing) :
    moment.requests uri = [] ∨
      (∃ id, moment.requests uri = [id]) ∧ ¬ moment.session.Provided uri ∧
        moment.after.Provided uri := by
  cases dealing with
  | asks asker asked task about seeks waits =>
    by_cases same : asked = uri
    · subst same
      refine .inr ⟨⟨asker, by simp [requests, seeks.fetches, Effect.request?]⟩, ?_, .inl ⟨asker, task,
        operation_of_expects? ((waits asker).trans (if_pos rfl)), about⟩⟩
      rintro (⟨id, other, fetching, concerns⟩ | ⟨settings, known⟩)
      · have needs : moment.session.Needs id asked := concerns ▸ Needs.of_fetching fetching
        obtain rfl := seeks.unique frugal needs
        exact seeks.not_fetching fetching
      · rw [seeks.unknown] at known
        cases known
    · left
      simp [requests, seeks.fetches, Effect.request?, same]
  | learns learner learned given answers goes unasked => exact .inl (unasked.requests uri)
  | configures host pushed now reaches unasked => exact .inl (unasked.requests uri)
  | spreads change general waits reaches unasked unanswered => exact .inl (unasked.requests uri)
  | passes kept unasked unanswered => exact .inl (unasked.requests uri)

/-- Settings that are known or asked for stay so, unless an operation is abandoned that waits for
them. -/
theorem Keeps.provided_after (keeps : moment.Keeps uri) (frugal : moment.session.Frugal)
    (dealing : moment.Dealing) (provided : moment.session.Provided uri)
    (pursued : moment.drops uri = false) : moment.after.Provided uri := by
  rcases provided with ⟨id, task, fetching, about⟩ | ⟨settings, known⟩
  · have expects : moment.session.expects? id = some (.fetching task) :=
      expects?_of_operation fetching
    have waits : moment.after.expects? id = moment.session.expects? id → moment.after.Provided uri :=
      fun same => .inl ⟨id, task, operation_of_expects? (same.trans expects), about⟩
    cases dealing with
    | asks asker asked sought concerns seeks entered =>
      refine waits ((entered id).trans (if_neg ?_))
      rintro rfl
      exact seeks.not_fetching fetching
    | learns learner learned given answers goes unasked =>
      by_cases same : id = learner
      · subst same
        obtain ⟨host, answer, other, now, heard, rfl, rfl⟩ := answers
        obtain rfl : task = other := by simpa using fetching.symm.trans heard
        exact .inr ⟨_, keeps.learned ⟨host, answer, task, now, heard, about, rfl⟩⟩
      · exact waits ((goes id).trans (if_neg same))
    | configures host pushed now reaches unasked => exact absurd now (keeps.unchanged host pushed)
    | spreads change general reconfiguring reaches unasked unanswered =>
      by_cases same : id = change
      · subst same
        rw [expects] at reconfiguring
        cases reconfiguring
      · rw [(frugal.alone reconfiguring).1 id same] at expects
        cases expects
    | passes kept unasked unanswered =>
      rcases kept id with same | ⟨-, ⟨scope, cause, ready⟩ | ⟨host, now⟩⟩
      · exact waits same
      · rw [expects] at ready
        cases ready
      · simp [drops, now, fetching, Stage.awaited?, about] at pursued
  · exact .inr ⟨settings, keeps.known_after frugal known⟩

end Moment

/-- The editor is asked once for settings, and once more for each operation that is abandoned while it
waits for them. It is not asked for what is known or asked for already. -/
theorem requests_le (session : Session) (impulses : List Impulse) (uri : Uri)
    (frugal : session.Frugal) (separate : Separate (session.moments impulses))
    (keeps : ∀ moment ∈ session.moments impulses, moment.Keeps uri) :
    (requestsFor uri (session.moments impulses)).length ≤
        dropsOf uri (session.moments impulses) + 1 ∧
      (session.Provided uri → (requestsFor uri (session.moments impulses)).length ≤
        dropsOf uri (session.moments impulses)) := by
  induction impulses generalizing session with
  | nil => simp [requestsFor]
  | cons impulse rest ih =>
    let moment : Moment := ⟨session, impulse⟩
    have here : moment.Keeps uri := keeps moment (List.mem_cons_self ..)
    have calm : moment.Calm := separate moment (List.mem_cons_self ..)
    have dealing := moment.dealing frugal calm
    obtain ⟨most, provided⟩ := ih moment.after (frugal.after calm)
      (fun other member => separate other (List.mem_cons_of_mem _ member))
      (fun other member => keeps other (List.mem_cons_of_mem _ member))
    have requests : (requestsFor uri (session.moments (impulse :: rest))).length =
        (moment.requests uri).length + (requestsFor uri (moment.after.moments rest)).length := by
      simp [requestsFor, moment, Moment.after]
    have drops : dropsOf uri (session.moments (impulse :: rest)) =
        dropsOf uri (moment.after.moments rest) + (if moment.drops uri then 1 else 0) := by
      simp [dropsOf, moment, Moment.after, List.countP_cons]
    rw [requests, drops]
    rcases Moment.requests_cases uri frugal dealing with none | ⟨⟨id, one⟩, unprovided, asked⟩
    · rw [none]
      cases dropped : moment.drops uri with
      | true =>
        simp only [List.length_nil, if_true]
        omega
      | false =>
        simp only [List.length_nil, Bool.false_eq_true, if_false]
        refine ⟨by omega, fun before => ?_⟩
        have further := provided (here.provided_after frugal dealing before dropped)
        omega
    · have further := provided asked
      rw [one]
      refine ⟨?_, fun before => absurd before unprovided⟩
      simp only [List.length_singleton]
      omega

/-- In a stretch in which a document stays open, all that needs its settings goes by the same ones: by
those that are known, if there are any. -/
theorem settings_used (session : Session) (impulses : List Impulse) (uri : Uri)
    (frugal : session.Frugal) (separate : Separate (session.moments impulses))
    (keeps : ∀ moment ∈ session.moments impulses, moment.Keeps uri) :
    (∃ settings, ∀ moment ∈ session.moments impulses, ∀ lookup, moment.lookup? = some lookup →
        lookup.scope = some uri → lookup.settings = settings) ∧
      ∀ settings, session.settings.get? uri = some settings →
        ∀ moment ∈ session.moments impulses, ∀ lookup, moment.lookup? = some lookup →
          lookup.scope = some uri → lookup.settings = settings := by
  induction impulses generalizing session with
  | nil => exact ⟨⟨{}, by simp⟩, by simp⟩
  | cons impulse rest ih =>
    let moment : Moment := ⟨session, impulse⟩
    have here : moment.Keeps uri := keeps moment (List.mem_cons_self ..)
    have calm : moment.Calm := separate moment (List.mem_cons_self ..)
    obtain ⟨⟨later, agree⟩, further⟩ := ih moment.after (frugal.after calm)
      (fun other member => separate other (List.mem_cons_of_mem _ member))
      (fun other member => keeps other (List.mem_cons_of_mem _ member))
    -- what is used in this moment is known afterwards
    have used := here.used_known frugal
    have known : ∀ settings, moment.after.settings.get? uri = some settings →
        ∀ other ∈ session.moments (impulse :: rest), ∀ lookup, other.lookup? = some lookup →
          lookup.scope = some uri → lookup.settings = settings := by
      intro settings found other member lookup made scope
      rcases List.mem_cons.mp member with rfl | after
      · exact Option.some.inj ((used lookup made scope).symm.trans found)
      · exact further settings found other after lookup made scope
    refine ⟨?_, fun settings found => known settings (here.known_after frugal found)⟩
    cases found : moment.after.settings.get? uri with
    | some settings => exact ⟨settings, known settings found⟩
    | none =>
      refine ⟨later, fun other member lookup made scope => ?_⟩
      rcases List.mem_cons.mp member with rfl | after
      · exact absurd ((used lookup made scope).symm.trans found) (Option.some_ne_none _)
      · exact agree other after lookup made scope

/-! ### The settings of a stretch -/

/-- What an answer of the editor makes of general settings. What cannot be read changes nothing. What
can be read has its own limit, and its own compiler if it names one. -/
structure Layers (general : Settings) (answer : Option Json) (settings : Settings) : Prop where
  unread : answer.bind Settings.ofJson? = none → settings = general
  limit : ∀ pulled, answer.bind Settings.ofJson? = some pulled →
    settings.maxDiagnostics = pulled.maxDiagnostics
  compiler : ∀ pulled, answer.bind Settings.ofJson? = some pulled →
    settings.compiler? = pulled.compiler?.or general.compiler?

theorem compiler?_completedBy (settings general : Settings) :
    (settings.completedBy general).compiler? = settings.compiler?.or general.compiler? := by
  have path : (settings.completedBy general).compilerPath =
      if settings.compiler?.isSome then settings.compilerPath else general.compilerPath := rfl
  cases named : settings.compiler? with
  | none =>
    rw [named] at path
    rw [Settings.compiler?, path]
    rfl
  | some compiler =>
    rw [named] at path
    rw [Settings.compiler?, path]
    exact named

theorem layers_layered (general : Settings) (answer : Option Json) :
    Layers general answer (layered general answer) := by
  unfold layered
  cases read : answer.bind Settings.ofJson? with
  | none => exact ⟨fun _ => rfl, by simp [read], by simp [read]⟩
  | some pulled =>
    refine ⟨by simp [read], ?_, ?_⟩
    · intro other same
      obtain rfl := Option.some.inj (read.symm.trans same)
      rfl
    · intro other same
      obtain rfl := Option.some.inj (read.symm.trans same)
      exact compiler?_completedBy pulled general

/-- Settings of a document are what an answer made of the general settings of its moment, and have not
been invalidated since. -/
def GivenSince (past : List Moment) (uri : Uri) (settings : Settings) : Prop :=
  ∃ old answered since host id answer, past = old ++ answered :: since ∧
    answered.impulse = .input host (.settings id answer) ∧ answered.session.Awaits id uri ∧
    (∀ moment ∈ answered :: since, ¬ moment.Invalidates uri) ∧
    Layers answered.session.general answer settings

theorem AnsweredSince.given {past : List Moment} {uri : Uri} {settings : Settings}
    (answered : AnsweredSince past uri settings) : GivenSince past uri settings := by
  obtain ⟨earlier, requested, between, answer, later, id, split, -, -, answers, valid⟩ := answered
  obtain ⟨host, said, task, now, waits, about, rfl⟩ := answers
  exact ⟨earlier ++ requested :: between, answer, later, host, id, said, by simp [split], now,
    ⟨task, waits, about⟩, valid, layers_layered ..⟩

/-- If operations do not overlap, the editor is asked at most once for the settings of a document while
it stays open and the configuration does not change; an operation that is abandoned while it waits lets
another ask again. All validations of the document and questions about it go by the same settings, which
an answer made of the general settings of its moment. -/
theorem settings_requested_once (general : Settings) (impulses : List Impulse) (uri : Uri)
    (earlier stretch later : List Moment)
    (run : (fresh general).moments impulses = earlier ++ (stretch ++ later))
    (separate : Separate ((fresh general).moments impulses))
    (keeps : ∀ moment ∈ stretch, moment.Keeps uri) :
    (requestsFor uri stretch).length ≤ dropsOf uri stretch + 1 ∧
      ∃ settings, ∀ before moment rest, stretch = before ++ moment :: rest →
        (∀ lookup, moment.lookup? = some lookup → lookup.scope = some uri →
          lookup.settings = settings ∧ GivenSince (earlier ++ before ++ [moment]) uri settings) ∧
        ∀ turn, moment.turn? = some turn → turn.uri = uri → turn.settings = settings := by
  obtain ⟨before, remaining, rfl, first, tail⟩ := moments_split _ impulses _ _ run
  obtain ⟨during, rest, rfl, middle, -⟩ := moments_split _ remaining _ _ tail
  rw [run] at separate
  have frugal : ((fresh general).after before).Frugal := by
    refine (frugal_fresh general).run before fun moment member => separate moment ?_
    exact List.mem_append_left _ (first ▸ member)
  have calm : Separate (((fresh general).after before).moments during) := by
    intro moment member
    refine separate moment (List.mem_append_right _ (List.mem_append_left _ ?_))
    exact middle ▸ member
  rw [← middle] at keeps
  obtain ⟨settings, used⟩ := (settings_used _ during uri frugal calm keeps).1
  refine ⟨middle ▸ (requests_le _ during uri frugal calm keeps).1, settings, ?_⟩
  intro past moment future split
  have member : moment ∈ ((fresh general).after before).moments during := by
    rw [middle, split]
    simp
  have search : ∀ lookup, moment.lookup? = some lookup → lookup.scope = some uri →
      lookup.settings = settings := used moment member
  refine ⟨fun lookup made scope => ?_, fun turn has about => ?_⟩
  · have place : (fresh general).moments (before ++ (during ++ rest)) =
        (earlier ++ past) ++ moment :: (future ++ later) := by
      rw [run, split]
      simp
    obtain ⟨impulses, -, passed, reached, -⟩ := moments_at _ _ _ _ _ place
    have cached : Cached (earlier ++ past) moment.session := by
      rw [← passed, reached]
      exact cached_run general impulses
    have given := (cached.used (keeps moment member).pulls made scope).given
    have same := search lookup made scope
    exact ⟨same, same ▸ given⟩
  · exact search _ (Moment.lookup_of_turn has) (congrArg some about)

/-- Whether nothing is under way in a moment at which an operation may begin. -/
def Moment.isCalm (moment : Moment) : Bool :=
  match moment.impulse with
  | .input _ (.start _) => moment.session.operations.entries.isEmpty
  | .input _ (.rested _ _) => moment.session.operations.entries.isEmpty
  | _ => true

theorem separate_of_all {run : List Moment} (calm : run.all Moment.isCalm = true) : Separate run := by
  intro moment member commences
  have checked := List.all_eq_true.mp calm moment member
  obtain ⟨host, ⟨request, now⟩ | ⟨uri, ticket, now, -⟩⟩ := commences
  · rw [Moment.isCalm, now] at checked
    exact Table.get?_of_isEmpty checked
  · rw [Moment.isCalm, now] at checked
    exact Table.get?_of_isEmpty checked

/-- Whether a moment keeps a document open while the editor can be asked. -/
def Moment.isKeeping (uri : Uri) (moment : Moment) : Bool :=
  match moment.impulse with
  | .input _ (.start (.configure _)) => false
  | _ => moment.session.pulls && moment.after.isOpen uri

theorem keeps_of_all {stretch : List Moment} {uri : Uri}
    (checked : stretch.all (Moment.isKeeping uri) = true) :
    ∀ moment ∈ stretch, moment.Keeps uri := by
  intro moment member
  have here := List.all_eq_true.mp checked moment member
  unfold Moment.isKeeping at here
  split at here
  · cases here
  · rename_i unchanged
    obtain ⟨pulls, stays⟩ := Bool.and_eq_true_iff.mp here
    exact ⟨pulls, stays, unchanged⟩

/-- A document is opened and validated for each reason in turn, and a question is asked about it. -/
def attendedRun (host : Host) (uri : Uri) (answer : Option Json) : List Impulse :=
  [.support true, .input host (.start (.open uri "let" 1)), .input host (.settings 0 answer),
    .input host (.ended 0 (.ok ⟨"", "", some 0⟩)), .input host (.start (.validate uri)),
    .input host (.ended 1 (.ok ⟨"", "", some 0⟩)),
    .input host (.start (.ask uri (.hover ⟨0, 0⟩))), .input host (.ended 2 (.ok ⟨"", "", some 0⟩)),
    .input host (.start (.change uri "let a" 2)), .input host (.rested uri 0)]

/-- The answer names a blank compiler, so that the general one is used, with the limit of the answer. -/
theorem settings_requested_once_attended :
    let host : Host := ⟨Settings.compiler?, fun _ => some "/tmp/a.volta"⟩
    let answer : Json := .object [("maxDiagnostics", Json.nat 7), ("compilerPath", .string " ")]
    let run := (fresh ⟨100, some "/g"⟩).moments (attendedRun host ⟨"file:///a"⟩ (some answer))
    Separate run ∧ (∀ moment ∈ run.drop 1, moment.Keeps ⟨"file:///a"⟩) ∧
      (requestsFor ⟨"file:///a"⟩ (run.drop 1)).length ≤ 1 ∧
      ∀ moment ∈ run.drop 1, ∀ turn, moment.turn? = some turn → turn.uri = ⟨"file:///a"⟩ →
        turn.settings = ⟨7, some "/g"⟩ := by
  intro host answer run
  have separate : Separate run := separate_of_all (by decide +kernel)
  have keeps : ∀ moment ∈ run.drop 1, moment.Keeps ⟨"file:///a"⟩ := keeps_of_all (by decide +kernel)
  have undropped : dropsOf ⟨"file:///a"⟩ (run.drop 1) = 0 := by decide +kernel
  obtain ⟨once, settings, used⟩ := settings_requested_once _ _ ⟨"file:///a"⟩ (run.take 1) (run.drop 1)
    [] (by rw [List.append_nil, List.take_append_drop]) separate keeps
  have uniform : ∀ moment ∈ run.drop 1, ∀ turn, moment.turn? = some turn →
      turn.uri = ⟨"file:///a"⟩ → turn.settings = settings := by
    intro moment member
    obtain ⟨before, rest, split⟩ := List.append_of_mem member
    exact (used before moment rest split).2
  -- the answer arrives in the second moment of the stretch, and the first validation goes on
  have given : ((run.drop 1)[1]?.bind Moment.turn?).map (fun turn => (turn.uri, turn.settings)) =
      some (⟨"file:///a"⟩, ⟨7, some "/g"⟩) := by
    decide +kernel
  obtain ⟨turn, found, same⟩ := Option.map_eq_some_iff.mp given
  obtain ⟨moment, place, has⟩ := Option.bind_eq_some_iff.mp found
  obtain ⟨about, settled⟩ := Prod.mk.inj same
  obtain rfl := (uniform moment (List.mem_of_getElem? place) turn has about).symm.trans settled
  exact ⟨separate, keeps, by rwa [undropped] at once, uniform⟩

end LanguageServer.Session
