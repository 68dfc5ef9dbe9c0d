import LanguageServer.Proofs.Session.Deed
import LanguageServer.Proofs.Session.Lookup

/-! The settings that a session keeps for documents. A change of the configuration and the end of a
document make it forget them, and they are kept again when an answer of the editor arrives, also one to
a request that was made before. -/

namespace LanguageServer.Session

namespace Moment

/-- The editor is asked for the settings of a document. -/
def Requests (moment : Moment) (id : OperationId) (uri : Uri) : Prop :=
  .fetch id (some uri) ∈ moment.effects

/-- The editor answers a request for the settings of a document, which gives these settings. -/
def Answers (moment : Moment) (id : OperationId) (uri : Uri) (settings : Settings) : Prop :=
  ∃ host answer task, moment.impulse = .input host (.settings id answer) ∧
    moment.session.operations.get? id = some (.fetching task) ∧ task.uri = uri ∧
    settings = layered moment.session.general answer

/-- The settings of a document do not hold any more: the configuration has changed, or the document
is closed. -/
def Invalidates (moment : Moment) (uri : Uri) : Prop :=
  moment.Closes uri ∨ ∃ host settings, moment.impulse = .input host (.start (.configure settings))

end Moment

/-- An operation waits for the settings of a document. -/
def Awaits (session : Session) (id : OperationId) (uri : Uri) : Prop :=
  ∃ task, session.operations.get? id = some (.fetching task) ∧ task.uri = uri

/-- Settings of a document are the answer to a request, and have not been invalidated since the answer
arrived. -/
def AnsweredSince (past : List Moment) (uri : Uri) (settings : Settings) : Prop :=
  ∃ earlier requested between answered later id,
    past = earlier ++ requested :: (between ++ answered :: later) ∧
      requested.Requests id uri ∧ (∀ moment ∈ between, moment.session.Awaits id uri) ∧
      answered.Answers id uri settings ∧ ∀ moment ∈ answered :: later, ¬ moment.Invalidates uri

/-- Settings of a document are the answer to a request, and have not been invalidated since the request
was made. -/
def RequestedSince (past : List Moment) (uri : Uri) (settings : Settings) : Prop :=
  ∃ earlier requested between answered later id,
    past = earlier ++ requested :: (between ++ answered :: later) ∧
      requested.Requests id uri ∧ answered.Answers id uri settings ∧
      ∀ moment ∈ between ++ answered :: later, ¬ moment.Invalidates uri

/-- If no request for the settings of a document waits when they are invalidated, an answer that came
since then is one to a request that was made since then. -/
theorem AnsweredSince.requestedSince {past : List Moment} {uri : Uri} {settings : Settings}
    (answered : AnsweredSince past uri settings)
    (separate : ∀ moment ∈ past, moment.Invalidates uri → ∀ id, ¬ moment.session.Awaits id uri) :
    RequestedSince past uri settings := by
  obtain ⟨earlier, requested, between, answer, later, id, split, requests, waits, answers, valid⟩ :=
    answered
  refine ⟨earlier, requested, between, answer, later, id, split, requests, answers, ?_⟩
  intro moment member
  rcases List.mem_append.mp member with during | after
  · intro invalidates
    refine separate moment ?_ invalidates id (waits moment during)
    rw [split]
    exact List.mem_append_right _ (List.mem_cons_of_mem _ (List.mem_append_left _ during))
  · exact valid moment after

theorem AnsweredSince.append {past : List Moment} {uri : Uri} {settings : Settings} {moment : Moment}
    (answered : AnsweredSince past uri settings) (valid : ¬ moment.Invalidates uri) :
    AnsweredSince (past ++ [moment]) uri settings := by
  obtain ⟨earlier, requested, between, answer, later, id, split, requests, waits, answers, since⟩ :=
    answered
  refine ⟨earlier, requested, between, answer, later ++ [moment], id, by simp [split], requests, waits,
    answers, ?_⟩
  intro other member
  rw [← List.cons_append] at member
  rcases List.mem_append.mp member with before | now
  · exact since other before
  · exact List.mem_singleton.mp now ▸ valid

/-! ### Requests under way -/

/-- Every operation that waits for settings has made its request, and has waited since. -/
def Requested (past : List Moment) (session : Session) : Prop :=
  ∀ id uri, session.Awaits id uri → ∃ earlier requested later,
    past = earlier ++ requested :: later ∧ requested.Requests id uri ∧
      ∀ moment ∈ later, moment.session.Awaits id uri

theorem Moment.awaits_after (moment : Moment) (numbered : moment.session.Numbered) {id : OperationId}
    {uri : Uri} (awaits : moment.after.Awaits id uri) :
    moment.session.Awaits id uri ∨ moment.Requests id uri := by
  obtain ⟨task, waits, rfl⟩ := awaits
  rcases moment.stage_after numbered waits with before | enters
  · exact .inl ⟨task, before, rfl⟩
  · cases enters with
    | fetching task pulled requests =>
      right
      rw [Requests, requests]
      exact List.mem_singleton_self _

theorem Requested.after {past : List Moment} {moment : Moment} (numbered : moment.session.Numbered)
    (requested : Requested past moment.session) : Requested (past ++ [moment]) moment.after := by
  intro id uri awaits
  rcases moment.awaits_after numbered awaits with before | requests
  · obtain ⟨earlier, request, later, split, made, since⟩ := requested id uri before
    refine ⟨earlier, request, later ++ [moment], by simp [split], made, ?_⟩
    intro other member
    rcases List.mem_append.mp member with during | now
    · exact since other during
    · exact List.mem_singleton.mp now ▸ before
  · refine ⟨past, moment, [], rfl, requests, ?_⟩
    simp

/-- An answer to an operation that waits is one to the request that it made. -/
theorem Requested.answered {past : List Moment} {moment : Moment}
    (requested : Requested past moment.session) {id : OperationId} {uri : Uri} {settings : Settings}
    (answers : moment.Answers id uri settings) : AnsweredSince (past ++ [moment]) uri settings := by
  obtain ⟨host, answer, task, now, waits, same, given⟩ := answers
  obtain ⟨earlier, request, later, split, made, since⟩ := requested id uri ⟨task, waits, same⟩
  refine ⟨earlier, request, later, moment, [], id, by simp [split], made, since,
    ⟨host, answer, task, now, waits, same, given⟩, ?_⟩
  intro other member
  obtain rfl := List.mem_singleton.mp member
  rintro (⟨otherHost, closes⟩ | ⟨otherHost, changed, configures⟩)
  · rw [now] at closes
    cases closes
  · rw [now] at configures
    cases configures

/-! ### What is kept -/

theorem settings_enter (books : Books) (entry : Entry) (uri : Uri) (settings : Settings)
    (kept : (books.enter entry).settings.get? uri = some settings) :
    entry = .informed uri settings ∨
      (books.settings.get? uri = some settings ∧ entry ≠ .closed uri ∧
        ∀ pushed, entry ≠ .configured pushed) := by
  cases entry with
  | closed other =>
    simp only [Books.enter, Table.get?_erase] at kept
    split at kept
    · cases kept
    · rename_i different
      refine .inr ⟨kept, ?_, by simp⟩
      rintro ⟨⟩
      exact different rfl
  | configured pushed => simp [Books.enter] at kept
  | informed other given =>
    simp only [Books.enter] at kept
    split at kept
    · rw [Table.get?_put] at kept
      split at kept
      · rename_i same
        rw [same, Option.some.inj kept]
        exact .inl rfl
      · exact .inr ⟨kept, by simp, by simp⟩
    · exact .inr ⟨kept, by simp, by simp⟩
  | changed other text version =>
    simp only [Books.enter] at kept
    split at kept <;> exact .inr ⟨kept, by simp, by simp⟩
  | _ => exact .inr ⟨kept, by simp, by simp⟩

theorem settings_turned (books : Books) (turn : Option Turn) :
    (books.turned turn).settings = books.settings := by
  unfold Books.turned
  split
  · split <;> rfl
  · rfl

namespace Moment

theorem settings_after (moment : Moment) : moment.after.settings = moment.entered.settings :=
  (congrArg Books.settings moment.books_after).trans (settings_turned ..)

theorem answers_of_informed {moment : Moment} {uri : Uri} {settings : Settings}
    (informed : moment.session.entry moment.impulse = .informed uri settings) :
    ∃ id, moment.Answers id uri settings := by
  obtain ⟨session, impulse⟩ := moment
  simp only [entry] at informed
  split at informed <;> try cases informed
  split at informed
  · rename_i host id answer _ task waits
    obtain ⟨rfl, rfl⟩ := Entry.informed.inj informed
    exact ⟨id, host, answer, task, rfl, waits, rfl, rfl⟩
  · cases informed

theorem entry_of_invalidates {moment : Moment} {uri : Uri} (invalidates : moment.Invalidates uri) :
    moment.session.entry moment.impulse = .closed uri ∨
      ∃ pushed, moment.session.entry moment.impulse = .configured pushed := by
  rcases invalidates with ⟨host, now⟩ | ⟨host, pushed, now⟩
  · rw [now]
    exact .inl rfl
  · rw [now]
    exact .inr ⟨pushed, rfl⟩

end Moment

/-- All settings that are kept were answered since they were last invalidated. -/
structure Cached (past : List Moment) (session : Session) : Prop where
  numbered : session.Numbered
  requested : Requested past session
  answered : ∀ uri settings, session.settings.get? uri = some settings →
    AnsweredSince past uri settings

theorem Cached.after {past : List Moment} {moment : Moment} (cached : Cached past moment.session) :
    Cached (past ++ [moment]) moment.after := by
  have numbered := cached.numbered
  refine ⟨moment.numbered_after numbered, cached.requested.after numbered, ?_⟩
  intro uri settings kept
  rw [moment.settings_after] at kept
  rcases settings_enter _ _ uri settings kept with informed | ⟨before, unclosed, unchanged⟩
  · obtain ⟨id, answers⟩ := Moment.answers_of_informed informed
    exact cached.requested.answered answers
  · refine (cached.answered uri settings before).append ?_
    intro invalidates
    rcases Moment.entry_of_invalidates invalidates with closed | ⟨pushed, configured⟩
    · exact unclosed closed
    · exact unchanged pushed configured

theorem cached_run (general : Settings) (impulses : List Impulse) :
    Cached ((fresh general).moments impulses) ((fresh general).after impulses) := by
  refine run_induction (motive := Cached) ?_ [] (fresh general) ?_ impulses
  · intro past session impulse cached
    exact Cached.after cached
  · refine ⟨numbered_fresh general, ?_, ?_⟩
    · rintro id uri ⟨task, waits, -⟩
      cases waits
    · intro uri settings kept
      cases kept

/-! ### What is used -/

/-- A search for the compiler that is made for a document does not invalidate its settings. -/
theorem Moment.valid_of_lookup {moment : Moment} {lookup : Lookup} {uri : Uri}
    (made : moment.lookup? = some lookup) (scope : lookup.scope = some uri) :
    ¬ moment.Invalidates uri := by
  rintro (⟨host, now⟩ | ⟨host, pushed, now⟩)
  · simp only [lookup?, now, Session.lookup?] at made
    cases made
  · simp only [lookup?, now, Session.lookup?] at made
    split at made
    · cases made
    · obtain rfl := Option.some.inj made
      cases scope

/-- What an operation on a document goes by was answered since it was last invalidated. -/
theorem Cached.used {past : List Moment} {moment : Moment} (cached : Cached past moment.session)
    (pulls : moment.session.pulls = true) {lookup : Lookup} {uri : Uri}
    (made : moment.lookup? = some lookup) (scope : lookup.scope = some uri) :
    AnsweredSince (past ++ [moment]) uri lookup.settings := by
  have valid := Moment.valid_of_lookup made scope
  cases (Moment.basis made).1 with
  | known other same settings =>
    obtain rfl := Option.some.inj (same.symm.trans scope)
    rw [settings?, if_pos pulls] at settings
    exact (cached.answered other _ settings).append valid
  | answered host id task answer now waits same settings =>
    have about := Option.some.inj (same.symm.trans scope)
    exact cached.requested.answered ⟨host, answer, task, now, waits, about, settings⟩
  | pushed host given now off same settings =>
    rw [same] at scope
    cases scope
  | pulled host id general answer now waits same settings =>
    rw [same] at scope
    cases scope

/-- In every run, the settings that are kept for a document, and those that a validation of it or a
question about it goes by while the editor can be asked, were answered since the last change of the
configuration and the last end of the document. If no request for them was waiting at any of these
moments, they were also requested since. -/
theorem kept_settings_since_invalidation (general : Settings) (impulses : List Impulse) (uri : Uri) :
    let run := (fresh general).moments impulses
    (∀ settings, ((fresh general).after impulses).settings.get? uri = some settings →
        AnsweredSince run uri settings) ∧
      (∀ earlier moment later lookup, run = earlier ++ moment :: later →
        moment.session.pulls = true → moment.lookup? = some lookup → lookup.scope = some uri →
          AnsweredSince (earlier ++ [moment]) uri lookup.settings) ∧
      ((∀ moment ∈ run, moment.Invalidates uri → ∀ id, ¬ moment.session.Awaits id uri) →
        (∀ settings, ((fresh general).after impulses).settings.get? uri = some settings →
          RequestedSince run uri settings) ∧
        ∀ earlier moment later lookup, run = earlier ++ moment :: later →
          moment.session.pulls = true → moment.lookup? = some lookup → lookup.scope = some uri →
            RequestedSince (earlier ++ [moment]) uri lookup.settings) := by
  intro run
  have kept := (cached_run general impulses).answered uri
  have used : ∀ earlier moment later lookup, run = earlier ++ moment :: later →
      moment.session.pulls = true → moment.lookup? = some lookup → lookup.scope = some uri →
        AnsweredSince (earlier ++ [moment]) uri lookup.settings := by
    intro earlier moment later lookup split pulls made scope
    obtain ⟨before, -, starts, reached, -⟩ := moments_at _ _ earlier later moment split
    have cached : Cached earlier moment.session := by
      rw [← starts, reached]
      exact cached_run general before
    exact cached.used pulls made scope
  refine ⟨kept, used, fun separate => ⟨?_, ?_⟩⟩
  · intro settings found
    exact (kept settings found).requestedSince separate
  · intro earlier moment later lookup split pulls made scope
    refine (used earlier moment later lookup split pulls made scope).requestedSince ?_
    intro other member
    refine separate other ?_
    have prefixed : run = (earlier ++ [moment]) ++ later := by simp [split]
    rw [prefixed]
    exact List.mem_append_left _ member

/-- A document is opened, closed and opened again, and its settings are answered each time. -/
def reopenedRun (host : Host) (uri : Uri) (answer : Option Json) : List Impulse :=
  [.support true, .input host (.start (.open uri "let" 1)), .input host (.settings 0 answer),
    .input host (.ended 0 (.ok ⟨"", "", some 0⟩)), .input host (.start (.close uri)),
    .input host (.start (.open uri "let a" 2)), .input host (.settings 2 answer)]

theorem kept_settings_since_invalidation_reopened :
    let impulses := reopenedRun ⟨fun _ => some "/bin/volta", fun _ => some "/tmp/a.volta"⟩
      ⟨"file:///a"⟩ (some (.object [("compilerPath", .string "/b")]))
    let run := (fresh {}).moments impulses
    (∀ moment ∈ run, moment.Invalidates ⟨"file:///a"⟩ →
        ∀ id, ¬ moment.session.Awaits id ⟨"file:///a"⟩) ∧
      ((fresh {}).after impulses).settings.get? ⟨"file:///a"⟩ = some ⟨100, some "/b"⟩ ∧
      RequestedSince run ⟨"file:///a"⟩ ⟨100, some "/b"⟩ := by
  intro impulses run
  have separate : ∀ moment ∈ run, moment.Invalidates ⟨"file:///a"⟩ →
      ∀ id, ¬ moment.session.Awaits id ⟨"file:///a"⟩ := by
    intro moment member invalidates id
    have listed : moment ∈ [_, _, _, _, _, _, _] := member
    simp only [List.mem_cons, List.not_mem_nil, or_false] at listed
    rcases listed with rfl | rfl | rfl | rfl | rfl | rfl | rfl
    -- Only the end of the document invalidates anything, and then no operation is under way.
    case inr.inr.inr.inr.inl =>
      rintro ⟨task, waits, -⟩
      cases waits
    all_goals
      rcases invalidates with ⟨host, now⟩ | ⟨host, pushed, now⟩ <;> cases now
  have kept : ((fresh {}).after impulses).settings.get? ⟨"file:///a"⟩ = some ⟨100, some "/b"⟩ := rfl
  exact ⟨separate, kept,
    ((kept_settings_since_invalidation {} impulses ⟨"file:///a"⟩).2.2 separate).1 _ kept⟩

/-- The configuration changes while the settings of a document are requested for the first time. -/
def lateAnswerRun (host : Host) (uri : Uri) (answer : Option Json) : List Impulse :=
  [.support true, .input host (.start (.open uri "let" 1)),
    .input host (.start (.configure none)), .input host (.settings 0 answer)]

/-- An answer to a request that was made before a change of the configuration is kept after it, and a
validation that begins then goes by it. -/
theorem late_answer_kept :
    let host : Host := ⟨Settings.compiler?, fun _ => some "/tmp/a.volta"⟩
    let impulses := lateAnswerRun host ⟨"file:///a"⟩ (some (.object [("compilerPath", .string "/b")]))
    let session := (fresh {}).after impulses
    session.settings.get? ⟨"file:///a"⟩ = some ⟨100, some "/b"⟩ ∧
      ¬ RequestedSince ((fresh {}).moments impulses) ⟨"file:///a"⟩ ⟨100, some "/b"⟩ ∧
      (⟨session, .input host (.start (.validate ⟨"file:///a"⟩))⟩ : Moment).lookup? =
        some ⟨some ⟨"file:///a"⟩, ⟨100, some "/b"⟩, some "/b"⟩ := by
  intro host impulses session
  refine ⟨rfl, ?_, rfl⟩
  rintro ⟨earlier, requested, between, answered, later, id, split, requests, -, valid⟩
  have listed : [_, _, _, _] = earlier ++ requested :: (between ++ answered :: later) := split
  -- The only request for the document is the second moment, and the third invalidates it.
  match earlier, listed with
  | [], listed =>
    obtain ⟨rfl, -⟩ := List.cons.inj listed
    cases requests
  | [_], listed =>
    obtain ⟨-, rest⟩ := List.cons.inj listed
    obtain ⟨-, rest⟩ := List.cons.inj rest
    exact valid _ (rest ▸ List.mem_cons_self ..) (.inr ⟨_, _, rfl⟩)
  | [_, _], listed =>
    obtain ⟨-, rest⟩ := List.cons.inj listed
    obtain ⟨-, rest⟩ := List.cons.inj rest
    obtain ⟨rfl, -⟩ := List.cons.inj rest
    have requests : Effect.fetch id (some ⟨"file:///a"⟩) ∈ [Effect.fetch 1 none] := requests
    simp at requests
  | _ :: _ :: _ :: other, listed =>
    have lengths := congrArg List.length listed
    simp at lengths
    omega

end LanguageServer.Session
