import LanguageServer.Proofs.Session.Staleness

/-! No update is lost. As long as nothing fails, a document that is open has a timer, has a validation
under way, or was last shown what the compiler found in its present text. -/

namespace LanguageServer.Session

/-! ### Documents and timers in the books -/

theorem document_enter (books : Books) (entry : Entry) (uri : Uri) (document : Document)
    (present : (books.enter entry).documents.get? uri = some document) :
    entry = .opened uri document ∨ (books.enter entry).timers.pending.contains uri = true ∨
      (entry ≠ .closed uri ∧ books.documents.get? uri = some document) := by
  cases entry with
  | opened other opened =>
    simp only [Books.enter, Table.get?_put] at present
    split at present
    · rename_i same
      rw [same, Option.some.inj present]
      exact .inl rfl
    · exact .inr (.inr ⟨by simp, present⟩)
  | changed other text version =>
    right
    cases known : books.documents.get? other with
    | none =>
      simp only [Books.enter, known] at present
      exact .inr ⟨by simp, present⟩
    | some old =>
      simp only [Books.enter, known, Table.get?_put] at present ⊢
      split at present
      · rename_i same
        exact .inl ((Table.contains_put ..).mpr (.inl same))
      · exact .inr ⟨by simp, present⟩
  | closed other =>
    simp only [Books.enter, Table.get?_erase] at present
    split at present
    · cases present
    · rename_i different
      refine .inr (.inr ⟨?_, present⟩)
      rintro ⟨⟩
      exact different rfl
  | informed other settings =>
    simp only [Books.enter] at present
    split at present <;> exact .inr (.inr ⟨by simp, present⟩)
  | _ => exact .inr (.inr ⟨by simp, present⟩)

theorem pending_enter (books : Books) (entry : Entry) (uri : Uri)
    (waits : books.timers.pending.contains uri = true) :
    entry = .closed uri ∨ entry = .stopped ∨
      (∃ ticket, entry = .rested uri ticket ∧ books.timers.pending.get? uri = some ticket) ∨
      (books.enter entry).timers.pending.contains uri = true := by
  cases entry with
  | changed other text version =>
    refine .inr (.inr (.inr ?_))
    simp only [Books.enter]
    split
    · exact waits
    · exact (Table.contains_put ..).mpr (.inr waits)
  | closed other =>
    by_cases same : uri = other
    · exact .inl (same ▸ rfl)
    · exact .inr (.inr (.inr ((Table.contains_erase ..).mpr ⟨same, waits⟩)))
  | stopped => exact .inr (.inl rfl)
  | informed other settings =>
    refine .inr (.inr (.inr ?_))
    simp only [Books.enter]
    split <;> exact waits
  | rested other ticket =>
    right; right
    simp only [Books.enter, Debounce.Register.claim?]
    by_cases due : books.timers.pending.get? other = some ticket
    · by_cases same : uri = other
      · subst same
        exact .inl ⟨ticket, rfl, due⟩
      · rw [if_pos due]
        exact .inr ((Table.contains_erase ..).mpr ⟨same, waits⟩)
    · rw [if_neg due]
      exact .inr waits
  | _ => exact .inr (.inr (.inr waits))

/-- The impulses that can make an entry. -/
def Entry.Source : Entry → Impulse → Prop
  | .opened uri document, impulse =>
    ∃ host, impulse = .input host (.start (.open uri document.text document.version))
  | .stopped, impulse => ∃ host, impulse = .input host (.start .shutdown)
  | .rested uri ticket, impulse => ∃ host, impulse = .input host (.rested uri ticket)
  | _, _ => True

theorem entry_source (session : Session) (impulse : Impulse) :
    (session.entry impulse).Source impulse := by
  unfold entry
  split <;> try exact ⟨_, rfl⟩
  all_goals try trivial
  split <;> trivial

/-! ### Runs in which nothing fails -/

/-- A moment at which nothing goes wrong: a document is opened only if it is not open, the session is
not shut down, a validation that has its turn finds a compiler and gets a file, calls of the compiler
have an output, and no validation is abandoned. -/
structure Moment.Orderly (moment : Moment) : Prop where
  opens : ∀ host uri text version,
    moment.impulse = .input host (.start (.open uri text version)) →
    moment.session.isOpen uri = false
  lasts : ∀ host, moment.impulse ≠ .input host (.start .shutdown)
  equipped : ∀ turn, moment.turn? = some turn →
    turn.executable.isSome = true ∧ turn.file.isSome = true
  answers : ∀ host id fault, moment.impulse ≠ .input host (.ended id (.error fault))
  pursues : ∀ host id, moment.impulse = .input host (.abandon id) →
    moment.session.standing? id = none

/-- No timer runs and no validation is under way. -/
structure Quiescent (session : Session) : Prop where
  timers : ∀ uri, session.timers.pending.contains uri = false
  validations : ∀ id, session.standing? id = none

/-- The compiler is called with a text for the validation that has its turn. -/
def Moment.Calls (moment : Moment) (turn : Turn) (text : String) : Prop :=
  moment.turn? = some turn ∧ ∃ executable file, turn.executable = some executable ∧
    turn.file = some file ∧
    moment.effects = [.call turn.id executable (Compiler.checkArguments file) text]

/-- The last that a run published about a document has the document's version, and is what a call of
the compiler with the document's text found, up to the limit in the settings of that validation. -/
def ShowsPresent (past : List Moment) (uri : Uri) (document : Document) : Prop :=
  ∃ earlier called between ended later turn output publication,
    past = earlier ++ called :: (between ++ ended :: later) ∧
    called.Calls turn document.text ∧ turn.uri = uri ∧
    ended.EndsCall turn.id output ∧ ended.published = [publication] ∧
    (publishedAbout uri past).getLast? = some publication ∧
    publication.check.version = document.version ∧
    publication.diagnostics =
      (Diagnostic.ofReport output.stderr.toList).take turn.settings.maxDiagnostics

/-- A call of the compiler with the document's text is under way, and its check is the latest. -/
def ChecksPresent (past : List Moment) (session : Session) (uri : Uri) (document : Document) :
    Prop :=
  ∃ earlier called later turn check, past = earlier ++ called :: later ∧
    called.Calls turn document.text ∧ turn.uri = uri ∧
    session.standing? turn.id = some (.checking check) ∧ check.uri = uri ∧
    session.latest.get? uri = some check.revision ∧ check.version = document.version ∧
    check.limit = turn.settings.maxDiagnostics

/-- How far the present text of a document has come. -/
inductive Settling (past : List Moment) (session : Session) (uri : Uri) (document : Document) : Prop
  | resting (waits : session.timers.pending.contains uri = true)
  | preparing (id : OperationId) (cause : Cause)
      (waits : session.standing? id = some (.preparing uri cause))
  | checking (checks : ChecksPresent past session uri document)
  /-- It is shown, and no check under way can replace what is shown. -/
  | shown (present : ShowsPresent past uri document)
      (settled : ∀ id check, session.standing? id = some (.checking check) → check.uri = uri →
        session.latest.get? uri ≠ some check.revision)

namespace Moment

/-- A validation that is under way goes on as before, has its turn, or comes to the end of its call. -/
theorem Orderly.pursued {moment : Moment} (orderly : moment.Orderly)
    (numbered : moment.session.Numbered) {id : OperationId} {standing : Standing}
    (stands : moment.session.standing? id = some standing) :
    moment.after.standing? id = some standing ∨
      (∃ turn, moment.turn? = some turn ∧ turn.id = id ∧
        standing = .preparing turn.uri turn.cause) ∨
      ∃ host output check, moment.impulse = .input host (.ended id (.ok output)) ∧
        standing = .checking check ∧ moment.after.standing? id = none := by
  cases moment.shift numbered id with
  | stays same => exact .inl (same.trans stands)
  | begins undrawn uri cause waits =>
    rw [numbered.standing undrawn] at stands
    cases stands
  | turns turn has same =>
    subst same
    exact .inr (.inl ⟨turn, has, rfl, standing_of_turn numbered has stands⟩)
  | ends host ending check now was gone =>
    have checks := Option.some.inj (stands.symm.trans (standing?_eq_checking.mpr was))
    cases ending with
    | error fault => exact absurd now (orderly.answers host id fault)
    | ok output => exact .inr (.inr ⟨host, output, check, now, checks, gone⟩)
  | leaves host now gone =>
    rw [orderly.pursues host id now] at stands
    cases stands

theorem not_drawsFor {moment : Moment} {uri : Uri}
    (unturned : ∀ turn, moment.turn? = some turn → turn.uri ≠ uri) : ¬ moment.DrawsFor uri := by
  rintro ⟨id, revision, ⟨turn, has, -, same⟩, -⟩
  exact unturned turn has same

variable {past : List Moment} {moment : Moment} {uri : Uri} {document : Document}

/-- A validation that has its turn calls the compiler with the present text of its document. -/
theorem settling_of_turn (orderly : moment.Orderly) {turn : Turn}
    (has : moment.turn? = some turn)
    (present : moment.after.documents.get? turn.uri = some document) :
    Settling (past ++ [moment]) moment.after turn.uri document := by
  obtain ⟨equipped, supplied⟩ := orderly.equipped turn has
  cases moment.upshot has with
  | skipped missing kept gone =>
    rcases missing with missing | missing
    · rw [missing] at equipped
      cases equipped
    · rw [missing] at present
      cases present
  | failed missing drawn gone =>
    rw [missing] at supplied
    cases supplied
  | called executable file opened found made stored drawn checks calls =>
    obtain rfl := Option.some.inj (stored.symm.trans present)
    have draws : moment.Draws turn.id turn.uri (moment.session.revision + 1) :=
      ⟨⟨turn, has, rfl, rfl⟩, Nat.lt_succ_self _, drawn⟩
    exact .checking ⟨past, moment, [], turn, _, rfl, ⟨has, executable, file, found, made, calls⟩, rfl,
      checks, rfl, (after_draw draws).2.1, rfl, rfl⟩

theorem settling_of_validate (orderly : moment.Orderly) (host : Host) (base : Session)
    (id : OperationId) (cause : Cause)
    (validates : moment.after = (base.validate host id uri cause).1)
    (same : moment.turn? = base.beginning? host id uri cause)
    (present : moment.after.documents.get? uri = some document) :
    Settling (past ++ [moment]) moment.after uri document := by
  cases begun : base.beginning? host id uri cause with
  | none => exact .preparing id cause (validates ▸ standing?_validate_self begun)
  | some turn =>
    obtain ⟨settings, rfl, -⟩ := validate_of_beginning base begun
    exact settling_of_turn orderly (same.trans begun) present

theorem settling_of_opened (orderly : moment.Orderly) (tidy : moment.session.books.Tidy)
    {host : Host} {text : String} {version : Int}
    (now : moment.impulse = .input host (.start (.open uri text version)))
    (present : moment.after.documents.get? uri = some document) :
    Settling (past ++ [moment]) moment.after uri document := by
  have unknown : moment.session.validated.contains uri = false := by
    refine Bool.eq_false_iff.mpr fun known => ?_
    have isOpen := (tidy.validated uri).mp (List.contains_iff_mem.mp known)
    exact Bool.false_ne_true ((orderly.opens host uri text version now).symm.trans isOpen)
  refine settling_of_validate orderly host (moment.session.prepared (.start (.open uri text version)))
    moment.session.nextOperation .asked ?_ ?_ present
  · simp only [after, react, now, step, start, opened, draw, unknown, Bool.false_eq_true, if_false]
    rfl
  · simp only [turn?, now, Session.turn?, unknown, Bool.false_eq_true, if_false]
    rfl

theorem settling_of_rested (orderly : moment.Orderly) {host : Host} {ticket : Nat}
    (now : moment.impulse = .input host (.rested uri ticket))
    (due : moment.session.timers.pending.get? uri = some ticket)
    (present : moment.after.documents.get? uri = some document) :
    Settling (past ++ [moment]) moment.after uri document := by
  refine settling_of_validate orderly host (moment.session.prepared (.rested uri ticket))
    moment.session.nextOperation .rest ?_ ?_ present
  · simp only [after, react, now, step, Debounce.Register.claim?, due, if_true]
    rfl
  · simp only [turn?, now, Session.turn?, due, if_true]
    rfl

/-- A validation that waits goes on waiting until it has its turn. -/
theorem settling_of_preparing (orderly : moment.Orderly) (numbered : moment.session.Numbered)
    (unturned : ∀ turn, moment.turn? = some turn → turn.uri ≠ uri) {id : OperationId} {cause : Cause}
    (waits : moment.session.standing? id = some (.preparing uri cause)) :
    Settling (past ++ [moment]) moment.after uri document := by
  rcases orderly.pursued numbered waits with
    same | ⟨turn, has, -, prepares⟩ | ⟨host, output, check, -, checks, -⟩
  · exact .preparing id cause same
  · cases prepares
    exact absurd rfl (unturned turn has)
  · cases checks

theorem showsPresent_of_ended {host : Host} {earlier later : List Moment} {called : Moment}
    {turn : Turn} {check : Check} {output : Compiler.Output}
    (split : past = earlier ++ called :: later) (calls : called.Calls turn document.text)
    (same : turn.uri = uri) (about : check.uri = uri)
    (now : moment.impulse = .input host (.ended turn.id (.ok output)))
    (waits : moment.session.operations.get? turn.id = some (.checking check))
    (current : moment.session.isCurrent uri check.revision = true)
    (version : check.version = document.version)
    (limit : check.limit = turn.settings.maxDiagnostics) :
    ShowsPresent (past ++ [moment]) uri document := by
  have published : moment.published =
      [⟨check, (Diagnostic.ofReport output.stderr.toList).take check.limit⟩] := by
    exact (shows_of_current now waits (about ▸ current)).1
  refine ⟨earlier, called, later, moment, [], turn, output, _, ?_, calls, same,
    ⟨⟨host, now⟩, check, waits⟩, published, ?_, version, ?_⟩
  · simp [split]
  · simp [publishedAbout, published, about]
  · rw [limit]

/-- A check of the present text goes on until it is shown. -/
theorem settling_of_checking (orderly : moment.Orderly) (revised : moment.session.Revised)
    (tidy : moment.session.books.Tidy)
    (unturned : ∀ turn, moment.turn? = some turn → turn.uri ≠ uri) (unclosed : ¬ moment.Closes uri)
    (checks : ChecksPresent past moment.session uri document) :
    Settling (past ++ [moment]) moment.after uri document := by
  obtain ⟨earlier, called, later, turn, check, split, calls, same, stands, about, latest, version,
    limit⟩ := checks
  have numbered := revised.numbered
  have kept := latest_undisturbed (not_drawsFor unturned) unclosed
  rcases orderly.pursued numbered stands with
    stays | ⟨next, -, -, prepares⟩ | ⟨host, output, ended, now, checks, gone⟩
  · exact .checking ⟨earlier, called, later ++ [moment], turn, check, by simp [split], calls, same,
      stays, about, kept.trans latest, version, limit⟩
  · cases prepares
  · have waits := standing?_eq_checking.mp stands
    have current := (isCurrent_iff tidy ..).mpr latest
    refine .shown (showsPresent_of_ended split calls same about now waits current version limit) ?_
    intro id other others aboutOther otherLatest
    rcases checking_after numbered others with under | draws
    · rw [kept, latest] at otherLatest
      have equal := revised.distinct turn.id id check other stands under (Option.some.inj otherLatest)
      rw [← equal, gone] at others
      cases others
    · exact not_drawsFor unturned ⟨id, _, aboutOther ▸ draws⟩

/-- What is shown stays as long as no check under way can replace it. -/
theorem settling_of_shown (revised : moment.session.Revised)
    (unturned : ∀ turn, moment.turn? = some turn → turn.uri ≠ uri) (unclosed : ¬ moment.Closes uri)
    (shown : ShowsPresent past uri document)
    (settled : ∀ id check, moment.session.standing? id = some (.checking check) → check.uri = uri →
      moment.session.latest.get? uri ≠ some check.revision) :
    Settling (past ++ [moment]) moment.after uri document := by
  have kept := latest_undisturbed (not_drawsFor unturned) unclosed
  have silent : publishedAbout uri [moment] = [] := by
    refine List.filter_eq_nil_iff.mpr ?_
    intro publication member about
    rw [List.flatMap_singleton] at member
    obtain ⟨id, checks, latest, -⟩ := published_checking member
    have same : publication.check.uri = uri := of_decide_eq_true about
    exact settled id _ checks same (same ▸ latest)
  refine .shown ?_ ?_
  · obtain ⟨earlier, called, between, ended, later, turn, output, publication, split, calls, same,
      ends, published, last, found⟩ := shown
    refine ⟨earlier, called, between, ended, later ++ [moment], turn, output, publication,
      by simp [split], calls, same, ends, published, ?_, found⟩
    rw [publishedAbout_append, silent, List.append_nil]
    exact last
  · intro id check checks about latest
    rcases checking_after revised.numbered checks with under | draws
    · exact settled id check under about (kept ▸ latest)
    · exact not_drawsFor unturned ⟨id, _, about ▸ draws⟩

/-- The present text of an open document comes further, or stays where it is. -/
theorem settling_after (orderly : moment.Orderly) (revised : moment.session.Revised)
    (tidy : moment.session.books.Tidy)
    (before : ∀ document, moment.session.documents.get? uri = some document →
      Settling past moment.session uri document)
    (present : moment.after.documents.get? uri = some document) :
    Settling (past ++ [moment]) moment.after uri document := by
  by_cases turned : ∃ turn, moment.turn? = some turn ∧ turn.uri = uri
  · obtain ⟨turn, has, rfl⟩ := turned
    exact settling_of_turn orderly has present
  have unturned : ∀ turn, moment.turn? = some turn → turn.uri ≠ uri :=
    fun turn has same => turned ⟨turn, has, same⟩
  have source := entry_source moment.session moment.impulse
  obtain ⟨documents, timers⟩ := moment.documents_after
  rcases document_enter _ _ uri document (documents ▸ present) with
    opened | pending | ⟨unclosed, known⟩
  · rw [opened] at source
    obtain ⟨host, now⟩ := source
    exact settling_of_opened orderly tidy now present
  · exact .resting (timers ▸ pending)
  have unclosed : ¬ moment.Closes uri := mt (moment.entry_eq_closed_iff uri).mpr unclosed
  cases before document known with
  | resting waits =>
    rcases pending_enter moment.session.books _ uri waits with
      closed | stopped | ⟨ticket, rested, due⟩ | pending
    · exact absurd ((moment.entry_eq_closed_iff uri).mp closed) unclosed
    · rw [stopped] at source
      obtain ⟨host, now⟩ := source
      exact absurd now (orderly.lasts host)
    · rw [rested] at source
      obtain ⟨host, now⟩ := source
      exact settling_of_rested orderly now due present
    · exact .resting (timers ▸ pending)
  | preparing id cause waits => exact settling_of_preparing orderly revised.numbered unturned waits
  | checking checks => exact settling_of_checking orderly revised tidy unturned unclosed checks
  | shown shown settled => exact settling_of_shown revised unturned unclosed shown settled

end Moment

/-- All that a run in which nothing fails keeps. -/
structure Settled (past : List Moment) (session : Session) : Prop where
  revised : session.Revised
  tidy : session.books.Tidy
  settling : ∀ uri document, session.documents.get? uri = some document →
    Settling past session uri document

theorem settled_run (general : Settings) (impulses : List Impulse)
    (orderly : ∀ moment ∈ (fresh general).moments impulses, moment.Orderly) :
    Settled ((fresh general).moments impulses) ((fresh general).after impulses) := by
  refine run_induction
    (motive := fun past session => (∀ moment ∈ past, moment.Orderly) → Settled past session)
    ?_ [] (fresh general) ?_ impulses orderly
  · intro past session impulse before orderly
    obtain ⟨revised, tidy, settling⟩ := before fun moment member =>
      orderly moment (List.mem_append_left _ member)
    have now := orderly ⟨session, impulse⟩ (List.mem_append_right _ (List.mem_singleton_self _))
    refine ⟨revised.after ⟨session, impulse⟩, tidy_react session impulse tidy, ?_⟩
    intro uri document present
    exact Moment.settling_after now revised tidy (settling uri) present
  · intro _
    exact ⟨revised_fresh general, tidy_run general [], fun _ _ present => nomatch present⟩

/-- No update is lost: when a run in which nothing fails has come to rest, the last that was
published about an open document has its version, and is what the compiler found in its text. -/
theorem present_text_shown_at_rest (general : Settings) (impulses : List Impulse)
    (orderly : ∀ moment ∈ (fresh general).moments impulses, moment.Orderly)
    (quiescent : ((fresh general).after impulses).Quiescent) (uri : Uri) (document : Document)
    (present : ((fresh general).after impulses).documents.get? uri = some document) :
    ShowsPresent ((fresh general).moments impulses) uri document := by
  cases (settled_run general impulses orderly).settling uri document present with
  | resting waits =>
    rw [quiescent.timers uri] at waits
    cases waits
  | preparing id cause waits =>
    rw [quiescent.validations id] at waits
    cases waits
  | checking checks =>
    obtain ⟨-, -, -, turn, check, -, -, -, stands, -⟩ := checks
    rw [quiescent.validations turn.id] at stands
    cases stands
  | shown shown settled => exact shown

/-- A document is changed during the call of its first validation, and validated again once it has
been at rest. -/
def changedRun (host : Host) (uri : Uri) (output : Compiler.Output) : List Impulse :=
  [.input host (.start (.open uri "let" 1)), .input host (.start (.change uri "let a" 2)),
    .input host (.ended 0 (.ok output)), .input host (.rested uri 0),
    .input host (.ended 2 (.ok output))]

theorem present_text_shown_at_rest_changed :
    let run := changedRun ⟨fun _ => some "/bin/volta", fun _ => some "/tmp/a.volta"⟩ ⟨"file:///a"⟩
      ⟨"", "", some 0⟩
    (∀ moment ∈ (fresh {}).moments run, moment.Orderly) ∧ ((fresh {}).after run).Quiescent ∧
      ShowsPresent ((fresh {}).moments run) ⟨"file:///a"⟩ ⟨"let a", 2⟩ := by
  intro run
  have orderly : ∀ moment ∈ (fresh {}).moments run, moment.Orderly := by
    intro moment member
    have listed : moment ∈ [_, _, _, _, _] := member
    simp only [List.mem_cons, List.not_mem_nil, or_false] at listed
    rcases listed with rfl | rfl | rfl | rfl | rfl
    · refine ⟨?_, nofun, ?_, nofun, nofun⟩
      · rintro _ _ _ _ ⟨⟩
        rfl
      · rintro _ ⟨⟩
        exact ⟨rfl, rfl⟩
    · exact ⟨nofun, nofun, nofun, nofun, nofun⟩
    · exact ⟨nofun, nofun, nofun, nofun, nofun⟩
    · refine ⟨nofun, nofun, ?_, nofun, nofun⟩
      rintro _ ⟨⟩
      exact ⟨rfl, rfl⟩
    · exact ⟨nofun, nofun, nofun, nofun, nofun⟩
  have quiescent : ((fresh {}).after run).Quiescent := ⟨fun _ => rfl, fun _ => rfl⟩
  exact ⟨orderly, quiescent, present_text_shown_at_rest {} run orderly quiescent _ _ rfl⟩

end LanguageServer.Session
