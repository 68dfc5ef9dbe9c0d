import LanguageServer.Proofs.Session.Lookup
import LanguageServer.Proofs.Session.Recency

/-! Changes of the configuration that come with their settings. While the editor is never asked for
settings, the general ones hold for all documents, and the compiler that was found last is the one that
they lead to as soon as a document is open. So a change validates the open documents exactly if it
leads to another compiler. -/

namespace LanguageServer.Session

/-- A moment at which the editor is not asked for settings, with a fixed way to the compiler: the
general settings change only with the configuration, and nothing but questions is abandoned. -/
structure Moment.Pushes (locator : Settings → Option Path) (moment : Moment) : Prop where
  locates : ∀ host input, moment.impulse = .input host input → host.locate = locator
  unsupported : moment.impulse ≠ .support true
  general : ∀ settings, moment.impulse ≠ .general settings
  pursues : moment.Pursues

/-- No operation waits for an answer of the editor, nor will any. -/
structure Unasking (session : Session) : Prop where
  pulls : session.pulls = false
  fetching : ∀ id task, session.operations.get? id ≠ some (.fetching task)
  reconfiguring : ∀ id general, session.operations.get? id ≠ some (.reconfiguring general)

/-! ### The general settings -/

theorem general_enter (books : Books) (entry : Entry) :
    (∃ pushed, entry = .configured pushed) ∨
      (∃ settings, entry = .general settings) ∨ (books.enter entry).general = books.general := by
  cases entry with
  | configured pushed => exact .inl ⟨pushed, rfl⟩
  | general settings => exact .inr (.inl ⟨settings, rfl⟩)
  | changed uri text version =>
    right; right
    simp only [Books.enter]
    split <;> rfl
  | informed uri settings =>
    right; right
    simp only [Books.enter]
    split <;> rfl
  | _ => exact .inr (.inr rfl)

theorem pulls_enter (books : Books) (entry : Entry) :
    (∃ pulls, entry = .supported pulls ∧ (books.enter entry).pulls = pulls) ∨
      (books.enter entry).pulls = books.pulls := by
  cases entry with
  | supported pulls => exact .inl ⟨pulls, rfl, rfl⟩
  | changed uri text version =>
    right
    simp only [Books.enter]
    split <;> rfl
  | informed uri settings =>
    right
    simp only [Books.enter]
    split <;> rfl
  | _ => exact .inr rfl

theorem configures_of_entry {session : Session} {impulse : Impulse} {pushed : Option Settings}
    (configured : session.entry impulse = .configured pushed) :
    ∃ host, impulse = .input host (.start (.configure pushed)) := by
  simp only [entry] at configured
  split at configured <;> try cases configured
  · exact ⟨_, rfl⟩
  · split at configured <;> cases configured

theorem replaces_of_entry {session : Session} {impulse : Impulse} {settings : Settings}
    (replaced : session.entry impulse = .general settings) : impulse = .general settings := by
  simp only [entry] at replaced
  split at replaced <;> try cases replaced
  · split at replaced <;> cases replaced
  · rfl

theorem supports_of_entry {session : Session} {impulse : Impulse} {pulls : Bool}
    (supported : session.entry impulse = .supported pulls) : impulse = .support pulls := by
  simp only [entry] at supported
  split at supported <;> try cases supported
  · split at supported <;> cases supported
  · rfl

namespace Moment

theorem books_kept (moment : Moment) :
    moment.after.general = moment.entered.general ∧ moment.after.pulls = moment.entered.pulls := by
  have same := moment.books_after
  have kept : (moment.entered.turned moment.turn?).general = moment.entered.general ∧
      (moment.entered.turned moment.turn?).pulls = moment.entered.pulls := by
    unfold Books.turned
    split
    · split <;> exact ⟨rfl, rfl⟩
    · exact ⟨rfl, rfl⟩
  rw [← same] at kept
  exact kept

theorem general_configured {moment : Moment} {host : Host} {pushed : Option Settings}
    (now : moment.impulse = .input host (.start (.configure pushed))) :
    moment.after.general = pushed.getD moment.session.general := by
  rw [moment.books_kept.1, entered, now]
  rfl

theorem general_after (moment : Moment) (fixed : ∀ settings, moment.impulse ≠ .general settings) :
    (∃ host pushed, moment.impulse = .input host (.start (.configure pushed))) ∨
      moment.after.general = moment.session.general := by
  rw [moment.books_kept.1]
  rcases general_enter moment.session.books (moment.session.entry moment.impulse) with
    ⟨pushed, configured⟩ | ⟨settings, replaced⟩ | same
  · obtain ⟨host, now⟩ := configures_of_entry configured
    exact .inl ⟨host, pushed, now⟩
  · exact absurd (replaces_of_entry replaced) (fixed settings)
  · exact .inr same

theorem pulls_after (moment : Moment) :
    (∃ pulls, moment.impulse = .support pulls ∧ moment.after.pulls = pulls) ∨
      moment.after.pulls = moment.session.pulls := by
  rw [moment.books_kept.2]
  rcases pulls_enter moment.session.books (moment.session.entry moment.impulse) with
    ⟨pulls, supported, changed⟩ | same
  · exact .inl ⟨pulls, supports_of_entry supported, changed⟩
  · exact .inr same

end Moment

/-! ### What a session goes by that does not ask -/

theorem Unasking.after (moment : Moment) {locator : Settings → Option Path}
    (pushes : moment.Pushes locator) (numbered : moment.session.Numbered)
    (unasking : moment.session.Unasking) : moment.after.Unasking := by
  have off : moment.session.pulls ≠ true := by
    rw [unasking.pulls]
    exact Bool.false_ne_true
  refine ⟨?_, ?_, ?_⟩
  · rcases moment.pulls_after with ⟨pulls, now, changed⟩ | same
    · rw [changed]
      refine Bool.eq_false_iff.mpr ?_
      rintro rfl
      exact pushes.unsupported now
    · rw [same, unasking.pulls]
  · intro id task waits
    rcases moment.stage_after numbered waits with before | enters
    · exact unasking.fetching id task before
    · cases enters with
      | fetching task pulled requests => exact off pulled
  · intro id general waits
    rcases moment.stage_after numbered waits with before | enters
    · exact unasking.reconfiguring id general before
    · cases enters with
      | reconfiguring general pulled => exact off pulled

namespace Moment

variable {moment : Moment} {locator : Settings → Option Path}

/-- Every search for the compiler goes by the general settings. -/
theorem found_general (pushes : moment.Pushes locator) (unasking : moment.session.Unasking)
    {lookup : Lookup} (made : moment.lookup? = some lookup) :
    lookup.found = locator moment.after.general := by
  obtain ⟨basis, host, input, now, found⟩ := basis made
  rw [found, pushes.locates host input now]
  congr 1
  cases basis with
  | known uri scope settings =>
    rw [settings?, unasking.pulls] at settings
    have same : lookup.settings = moment.session.general := (Option.some.inj settings).symm
    rcases moment.general_after pushes.general with ⟨other, pushed, configures⟩ | kept
    · simp only [lookup?, configures, Session.lookup?, unasking.pulls] at made
      obtain rfl := Option.some.inj made
      cases scope
    · rw [same, kept]
  | answered other id task answer answers waits scope settings =>
    exact absurd waits (unasking.fetching id task)
  | pushed other pushed configures off scope settings =>
    rw [settings, general_configured configures]
  | pulled other id general answer answers waits scope settings =>
    exact absurd waits (unasking.reconfiguring id general)

theorem unconfigured_of_lookup (unasking : moment.session.Unasking) (none : moment.lookup? = none)
    {host : Host} {pushed : Option Settings} :
    moment.impulse ≠ .input host (.start (.configure pushed)) := by
  intro now
  simp only [lookup?, now, Session.lookup?, unasking.pulls] at none
  cases none

theorem open_of_lookup (unasking : moment.session.Unasking) (tidy : moment.session.books.Tidy)
    (none : moment.lookup? = none) {uri : Uri} (isOpen : moment.after.isOpen uri = true) :
    moment.session.isOpen uri = true := by
  rw [Session.isOpen, moment.documents_after.1] at isOpen
  rcases contains_enter _ _ uri isOpen with ⟨document, entered⟩ | ⟨-, before⟩
  · have source := entry_source moment.session moment.impulse
    rw [entered] at source
    obtain ⟨host, now⟩ := source
    by_cases known : moment.session.validated.contains uri = true
    · exact (tidy.validated uri).mp (List.contains_iff_mem.mp known)
    · simp only [lookup?, now, Session.lookup?, known, Bool.false_eq_true, if_false, known?, settings?,
        unasking.pulls] at none
      cases none
  · exact before

end Moment

/-- As soon as a document is open, the compiler that was found last is that of the general settings. -/
def Synced (locator : Settings → Option Path) (session : Session) : Prop :=
  ∀ uri, session.isOpen uri = true → session.compiler = locator session.general

theorem Synced.after (moment : Moment) {locator : Settings → Option Path}
    (pushes : moment.Pushes locator) (unasking : moment.session.Unasking)
    (tidy : moment.session.books.Tidy) (synced : moment.session.Synced locator) :
    moment.after.Synced locator := by
  intro uri isOpen
  rw [moment.compiler_after]
  cases made : moment.lookup? with
  | some lookup => exact Moment.found_general pushes unasking made
  | none =>
    have before := Moment.open_of_lookup unasking tidy made isOpen
    rcases moment.general_after pushes.general with ⟨host, pushed, now⟩ | kept
    · exact absurd now (Moment.unconfigured_of_lookup unasking made)
    · rw [kept]
      exact synced uri before

/-! ### The gate of a change -/

namespace Moment

variable {moment : Moment} {host : Host} {pushed : Option Settings}

/-- The session in which a change of the configuration looks for the compiler. -/
def changed (moment : Moment) (pushed : Option Settings) : Session :=
  { moment.session.draw.1 with
    general := pushed.getD moment.session.general
    settings := ∅ }

theorem react_configured (now : moment.impulse = .input host (.start (.configure pushed)))
    (off : moment.session.pulls = false) :
    moment.session.react moment.impulse =
      (moment.changed pushed).reconfigured host moment.session.nextOperation
        (pushed.getD moment.session.general) := by
  simp only [react, now, step, start, configure, changed, draw, off, Bool.false_eq_true, if_false]

/-- A change of the configuration that leads to the same compiler does nothing. -/
theorem configured_same (now : moment.impulse = .input host (.start (.configure pushed)))
    (off : moment.session.pulls = false) (numbered : moment.session.Numbered)
    (same : moment.session.compiler = host.locate (pushed.getD moment.session.general)) :
    moment.effects = [.done moment.session.nextOperation (.count 0)] ∧
      ∀ id, moment.after.operations.get? id = moment.session.operations.get? id := by
  have ends := reconfigured_same (moment.changed pushed) host (pushed.getD moment.session.general)
    moment.session.nextOperation same
  rw [effects, after, react_configured now off, ends]
  refine ⟨rfl, fun id => ?_⟩
  refine (Table.get?_erase ..).trans ?_
  split
  · rename_i new
    rw [new, numbered _ (Nat.le_refl _)]
  · rfl

theorem account_of_configured (now : moment.impulse = .input host (.start (.configure pushed)))
    (off : moment.session.pulls = false) (attributed : moment.session.Attributed)
    (differs : moment.session.compiler ≠ host.locate (pushed.getD moment.session.general))
    {uri : Uri} (isOpen : moment.session.isOpen uri = true) :
    ∃ pending, Account moment.session.nextOperation moment.session.documents.keys [] moment.after
      pending [] := by
  refine account_of_reconfigured (moment.changed pushed) host (pushed.getD moment.session.general)
    attributed rfl rfl (.inl rfl) (Nat.lt_succ_self _) differs isOpen ?_
  rw [after, react_configured now off]

end Moment

theorem Account.preparing {change : OperationId} {uris : List Uri} {session : Session}
    {pending : List (Uri × OperationId)} {running : List OperationId}
    (account : Account change uris [] session pending running) {uri : Uri} (member : uri ∈ uris) :
    ∃ id, session.standing? id = some (.preparing uri (.change change)) := by
  have listed : uri ∈ pending.map Prod.fst := account.turned.mem_iff.mpr member
  obtain ⟨⟨same, id⟩, present, rfl⟩ := List.mem_map.mp listed
  exact ⟨id, (service?_eq_some.mp ((account.mem_pending same id).mp present)).1⟩

/-! ### Runs without questions to the editor -/

/-- All that a run keeps in which the editor is not asked for settings. -/
structure Configured (locator : Settings → Option Path) (past : List Moment) (session : Session) :
    Prop where
  numbered : session.Numbered
  attributed : session.Attributed
  tidy : session.books.Tidy
  unasking : session.Unasking
  synced : session.Synced locator
  validity : ∀ uri, session.isOpen uri = true →
    Validity (fun turn => turn.executable = locator session.general) past session uri

theorem Configured.after {locator : Settings → Option Path} {past : List Moment} {moment : Moment}
    (pushes : moment.Pushes locator) (configured : Configured locator past moment.session) :
    Configured locator (past ++ [moment]) moment.after := by
  obtain ⟨numbered, attributed, tidy, unasking, synced, validity⟩ := configured
  refine ⟨moment.numbered_after numbered, attributed.after moment numbered, tidy_react _ _ tidy,
    unasking.after moment pushes numbered, synced.after moment pushes unasking tidy, ?_⟩
  intro uri isOpen
  by_cases same : locator moment.after.general = locator moment.session.general
  · refine Moment.validity_after numbered tidy pushes.pursues ?_ ?_ isOpen
    · intro turn has _
      exact Moment.found_general pushes unasking (Moment.lookup_of_turn has)
    · rw [same]
      exact validity uri
  · -- Only a change of the configuration leads to another compiler, and it makes all documents ready.
    rcases moment.general_after pushes.general with ⟨host, pushed, now⟩ | kept
    · have before : moment.session.isOpen uri = true := by
        rw [Session.isOpen, moment.documents_after.1, Moment.entered, now] at isOpen
        exact isOpen
      rw [Moment.general_configured now] at same
      have differs : moment.session.compiler ≠
          host.locate (pushed.getD moment.session.general) := by
        rw [synced uri before, pushes.locates host _ now]
        exact Ne.symm same
      obtain ⟨pending, account⟩ :=
        Moment.account_of_configured now unasking.pulls attributed differs before
      obtain ⟨id, waits⟩ := account.preparing ((Table.mem_keys ..).mpr before)
      exact .preparing id _ waits
    · exact absurd (congrArg locator kept) same

theorem configured_run (locator : Settings → Option Path) (general : Settings)
    (impulses : List Impulse)
    (pushes : ∀ moment ∈ (fresh general).moments impulses, moment.Pushes locator) :
    Configured locator ((fresh general).moments impulses) ((fresh general).after impulses) := by
  refine run_induction (motive := fun past session =>
    (∀ moment ∈ past, moment.Pushes locator) → Configured locator past session)
    ?_ [] (fresh general) ?_ impulses pushes
  · intro past session impulse before pushes
    have now := pushes ⟨session, impulse⟩ (List.mem_append_right _ (List.mem_singleton_self _))
    exact Configured.after now (before fun moment member =>
      pushes moment (List.mem_append_left _ member))
  · intro _
    refine ⟨numbered_fresh general, attributed_run general [], tidy_run general [], ?_, ?_, ?_⟩
    · exact ⟨rfl, by simp [fresh], by simp [fresh]⟩
    · intro uri isOpen
      cases isOpen
    · intro uri isOpen
      cases isOpen

/-- While the editor is not asked for settings, a change of the configuration that finds a document
open does nothing but return 0 if the new general settings lead to the same compiler as those before.
Otherwise it validates each open document once and returns their number. So once no operation is under
way, the latest validation of each open document found the compiler of the present settings. -/
theorem pushed_configuration_revalidates (locator : Settings → Option Path) (general : Settings)
    (impulses : List Impulse)
    (pushes : ∀ moment ∈ (fresh general).moments impulses, moment.Pushes locator) :
    let run := (fresh general).moments impulses
    let session := (fresh general).after impulses
    (∀ earlier changing later host pushed uri, run = earlier ++ changing :: later →
        changing.impulse = .input host (.start (.configure pushed)) →
        changing.session.isOpen uri = true →
        (locator (pushed.getD changing.session.general) = locator changing.session.general →
          changing.effects = [.done changing.session.nextOperation (.count 0)] ∧
            ∀ id, changing.after.operations.get? id = changing.session.operations.get? id) ∧
        (locator (pushed.getD changing.session.general) ≠ locator changing.session.general →
          ∃ uris : List Uri, uris.Nodup ∧
            (∀ uri, uri ∈ uris ↔ changing.session.isOpen uri = true) ∧
            Revalidation changing.session.nextOperation uris later session)) ∧
      ((∀ id, session.operations.get? id = none) → ∀ uri executable, session.isOpen uri = true →
        locator session.general = some executable → ValidatedWith run session uri executable) := by
  intro run session
  refine ⟨?_, ?_⟩
  · intro earlier changing later host pushed uri split now isOpen
    have whole : ∀ moment ∈ earlier ++ changing :: later, moment.Pushes locator := split ▸ pushes
    obtain ⟨before, rest, starts, reached, remaining, ending⟩ := moments_cut _ _ _ _ _ split
    have configured : Configured locator earlier changing.session := by
      rw [← starts, reached]
      refine configured_run locator general before ?_
      intro moment member
      exact whole moment (List.mem_append_left _ (starts ▸ member))
    have located : host.locate = locator := by
      have pushing := whole changing (List.mem_append_right _ (List.mem_cons_self ..))
      exact pushing.locates host _ now
    have off := configured.unasking.pulls
    have found : changing.session.compiler = locator changing.session.general :=
      configured.synced uri isOpen
    rw [← located] at found ⊢
    refine ⟨?_, ?_⟩
    · intro same
      exact Moment.configured_same now off configured.numbered (found.trans same.symm)
    · intro differs
      refine ⟨changing.session.documents.keys, ?_, fun uri => Table.mem_keys .., ?_⟩
      · rw [reached]
        exact nodup_keys_run general before
      · obtain ⟨pending, account⟩ := Moment.account_of_configured now off configured.attributed
          (found ▸ Ne.symm differs) isOpen
        have numbered := changing.numbered_after configured.numbered
        have progress := revalidation_run numbered account rest (by
          rw [remaining]
          intro moment member
          exact (whole moment (List.mem_append_right _ (List.mem_cons_of_mem _ member))).pursues)
        rw [remaining, ← ending] at progress
        exact progress
  · intro rests uri executable isOpen found
    cases (configured_run locator general impulses pushes).validity uri isOpen with
    | latest turn latest good => exact latest.validatedWith (good.trans found)
    | preparing id cause waits =>
      rw [standing?, rests id] at waits
      cases waits

/-- Two documents are opened without a compiler, and a change of the configuration leads to one. -/
def foundRun (host : Host) (one other : Uri) (settings : Settings) (output : Compiler.Output) :
    List Impulse :=
  [.input host (.start (.open one "let" 1)), .input host (.start (.open other "let b" 1)),
    .input host (.start (.configure (some settings))), .input host (.turn 4), .input host (.turn 3),
    .input host (.ended 3 (.ok output)), .input host (.ended 4 (.ok output)), .input host (.turn 2)]

theorem pushed_configuration_revalidates_found :
    let host : Host := ⟨Settings.compilerPath, fun _ => some "/tmp/a.volta"⟩
    let impulses := foundRun host ⟨"file:///a"⟩ ⟨"file:///b"⟩ ⟨100, some "/b"⟩ ⟨"", "", some 0⟩
    let run := (fresh {}).moments impulses
    let session := (fresh {}).after impulses
    (∀ moment ∈ run, moment.Pushes Settings.compilerPath) ∧
      (∃ uris : List Uri, uris.Nodup ∧ ⟨"file:///a"⟩ ∈ uris ∧ ⟨"file:///b"⟩ ∈ uris ∧
        Revalidation 2 uris (run.drop 3) session) ∧
      (∀ id, session.operations.get? id = none) ∧
      ValidatedWith run session ⟨"file:///a"⟩ "/b" ∧ ValidatedWith run session ⟨"file:///b"⟩ "/b" := by
  intro host impulses run session
  have pushes : ∀ moment ∈ run, moment.Pushes Settings.compilerPath := by
    intro moment member
    have listed : moment ∈ [_, _, _, _, _, _, _, _] := member
    simp only [List.mem_cons, List.not_mem_nil, or_false] at listed
    have plain : ∃ session input, moment = ⟨session, .input host input⟩ ∧
        ∀ id, input ≠ .abandon id := by
      rcases listed with rfl | rfl | rfl | rfl | rfl | rfl | rfl | rfl <;>
        exact ⟨_, _, rfl, by simp⟩
    obtain ⟨found, input, rfl, lasts⟩ := plain
    refine ⟨?_, by simp, by simp, ?_⟩
    · rintro _ _ ⟨⟩
      rfl
    · rintro _ id stage ⟨⟩
      exact absurd rfl (lasts id)
  obtain ⟨changes, rests⟩ := pushed_configuration_revalidates Settings.compilerPath {} impulses pushes
  have still : ∀ id, session.operations.get? id = none := Table.get?_of_isEmpty (by decide +kernel)
  obtain ⟨uris, distinct, listed, progress⟩ :=
    (changes [_, _] _ _ host (some ⟨100, some "/b"⟩) ⟨"file:///a"⟩ rfl rfl (by decide +kernel)).2
      (by decide +kernel)
  have first : ⟨"file:///a"⟩ ∈ uris := (listed _).mpr (by decide +kernel)
  have second : ⟨"file:///b"⟩ ∈ uris := (listed _).mpr (by decide +kernel)
  exact ⟨pushes, ⟨uris, distinct, first, second, progress⟩, still,
    rests still _ _ (by decide +kernel) (by decide +kernel),
    rests still _ _ (by decide +kernel) (by decide +kernel)⟩

end LanguageServer.Session
