import LanguageServer.Proofs.Session.Books
import LanguageServer.Proofs.Session.Progress

/-! What becomes of a validation that has its turn, and of the revisions of documents. -/

namespace LanguageServer.Session

/-- The check that a validation begins when it has its turn. -/
def Turn.check (turn : Turn) (revision : Nat) (document : Document) (executable file : Path) :
    Check :=
  ⟨turn.uri, turn.cause, revision, document.version, turn.settings.maxDiagnostics, executable, file⟩

/-- What becomes of a validation that has its turn: the session after it and what it brings about,
given the number of revisions drawn before. -/
inductive Upshot (revision : Nat) (turn : Turn) (after : Session) (effects : List Effect) : Prop
  /-- There is no compiler, or the document is not open. -/
  | skipped (missing : turn.executable = none ∨ after.documents.get? turn.uri = none)
      (kept : after.revision = revision) (gone : after.standing? turn.id = none)
  /-- No file can be made for the compiler. -/
  | failed (missing : turn.file = none) (drawn : after.revision = revision + 1)
      (gone : after.standing? turn.id = none)
  /-- The compiler is called. -/
  | called (executable file : Path) (document : Document)
      (found : turn.executable = some executable) (made : turn.file = some file)
      (present : after.documents.get? turn.uri = some document)
      (drawn : after.revision = revision + 1)
      (checks : after.standing? turn.id =
        some (.checking (turn.check (revision + 1) document executable file)))
      (calls : effects = [.call turn.id executable (Compiler.checkArguments file) document.text])

theorem check_upshot (host : Host) (session : Session) (id : OperationId) (uri : Uri)
    (cause : Cause) (settings : Settings) :
    Upshot session.revision (.ofSettings host id uri cause settings)
      (session.check host id uri cause settings).1 (session.check host id uri cause settings).2 := by
  have same : ((session.resolve host settings).1.conclude id cause .skipped).1.books =
      session.books := (books_conclude ..).trans (books_resolve ..)
  have gone : ((session.resolve host settings).1.conclude id cause .skipped).1.standing? id = none :=
    (clears_conclude _ id cause .skipped).gone
  cases found : host.locate settings with
  | none =>
    rw [check_skipped host session id uri cause settings (.inl found)]
    exact .skipped (.inl found) (congrArg Books.revision same) gone
  | some executable =>
    cases present : session.documents.get? uri with
    | none =>
      rw [check_skipped host session id uri cause settings (.inr present)]
      refine .skipped (.inr ?_) (congrArg Books.revision same) gone
      exact (congrArg (fun books => books.documents.get? uri) same).trans present
    | some document =>
      cases made : host.scratch id with
      | none =>
        rw [check_failed host session id uri cause settings executable document found present made]
        exact .failed made (congrArg Books.revision (books_conclude _ id cause .failed))
          (clears_conclude _ id cause .failed).gone
      | some file =>
        rw [check_called host session id uri cause settings executable file document found present
          made]
        exact .called executable file document found made present rfl (standing?_suspend_self ..) rfl

theorem revision_prepared (session : Session) (input : Input) :
    (session.prepared input).revision = session.revision := by
  unfold prepared
  split <;> try rfl
  split
  · unfold keep
    split <;> rfl
  · rfl

theorem Moment.upshot (moment : Moment) {turn : Turn} (has : moment.turn? = some turn) :
    Upshot moment.session.revision turn moment.after moment.effects := by
  obtain ⟨session, impulse⟩ := moment
  cases impulse with
  | support pulls => cases has
  | general settings => cases has
  | input host input =>
    obtain ⟨id, uri, cause, settings, rfl, same⟩ := step_of_turn has
    have reached := check_upshot host (session.prepared input) id uri cause settings
    rw [← same, revision_prepared] at reached
    exact reached

theorem number_turn {host : Host} {session : Session} {input : Input} {turn : Turn}
    (has : session.turn? host input = some turn) :
    (session.step host input).1.nextOperation = (session.prepared input).nextOperation := by
  obtain ⟨id, uri, cause, settings, -, same⟩ := step_of_turn has
  rw [same]
  exact (touches_check ..).number

/-- A validation that has its turn has just begun, or had to wait for it. -/
theorem Moment.turn_standing (moment : Moment) {turn : Turn} (has : moment.turn? = some turn) :
    (turn.id = moment.session.nextOperation ∧
        moment.after.nextOperation = moment.session.nextOperation + 1 ∧
        (turn.cause = .asked ∨ turn.cause = .rest)) ∨
      moment.session.standing? turn.id = some (.preparing turn.uri turn.cause) := by
  obtain ⟨session, impulse⟩ := moment
  have begun : ∀ {host id uri cause}, session.beginning? host id uri cause = some turn →
      turn.id = id ∧ turn.uri = uri ∧ turn.cause = cause := by
    intro host id uri cause begins
    obtain ⟨settings, rfl, -⟩ := validate_of_beginning session begins
    exact ⟨rfl, rfl, rfl⟩
  cases impulse with
  | support pulls => cases has
  | general settings => cases has
  | input host input =>
    have number := number_turn has
    simp only [turn?, Session.turn?] at has
    split at has
    · split at has
      · cases has
      · exact .inl ⟨(begun has).1, number, .inl (begun has).2.2⟩
    · exact .inl ⟨(begun has).1, number, .inl (begun has).2.2⟩
    · split at has
      · rename_i waits
        obtain rfl := Option.some.inj has
        right
        simp [standing?, waits, Stage.standing?, Turn.ofSettings]
      · cases has
    · split at has
      · exact .inl ⟨(begun has).1, number, .inr (begun has).2.2⟩
      · cases has
    · split at has
      · rename_i waits
        obtain ⟨same, rfl, rfl⟩ := begun has
        right
        simp [standing?, same, waits, Stage.standing?]
      · cases has
    · cases has

theorem Moment.standing_of_turn {moment : Moment} (numbered : moment.session.Numbered) {turn : Turn}
    (has : moment.turn? = some turn) {standing : Standing}
    (stands : moment.session.standing? turn.id = some standing) :
    standing = .preparing turn.uri turn.cause := by
  rcases moment.turn_standing has with ⟨new, -⟩ | waits
  · rw [numbered.standing (Nat.le_of_eq new.symm)] at stands
    cases stands
  · exact Option.some.inj (stands.symm.trans waits)

theorem Moment.turn_number {moment : Moment} (numbered : moment.session.Numbered) {turn : Turn}
    (has : moment.turn? = some turn) : turn.id < moment.after.nextOperation := by
  rcases moment.turn_standing has with ⟨new, number, -⟩ | waits
  · rw [new, number]
    exact Nat.lt_succ_self _
  · refine Nat.lt_of_lt_of_le ?_ (moment.number_le_after numbered)
    refine Nat.lt_of_not_le fun undrawn => ?_
    rw [numbered.standing undrawn] at waits
    cases waits

/-! ### Revisions -/

theorem revision_enter (books : Books) (entry : Entry) :
    (books.enter entry).revision = books.revision := by
  cases entry with
  | changed uri text version =>
    simp only [Books.enter]
    split <;> rfl
  | informed uri settings =>
    simp only [Books.enter]
    split <;> rfl
  | _ => rfl

/-- Only the end of a document takes its revision from the books. -/
theorem latest_enter (books : Books) (entry : Entry) (uri : Uri) :
    (books.enter entry).latest.get? uri =
      if entry = .closed uri then none else books.latest.get? uri := by
  cases entry with
  | closed other =>
    simp only [Books.enter, Table.get?_erase, Entry.closed.injEq, eq_comm]
  | changed other text version =>
    simp only [Books.enter, reduceCtorEq, if_false]
    split <;> rfl
  | informed other settings =>
    simp only [Books.enter, reduceCtorEq, if_false]
    split <;> rfl
  | _ => simp [Books.enter]

theorem nextTicket_enter (books : Books) (entry : Entry) :
    books.timers.nextTicket ≤ (books.enter entry).timers.nextTicket := by
  cases entry with
  | changed uri text version =>
    simp only [Books.enter]
    split
    · exact Nat.le_refl _
    · exact Nat.le_succ _
  | informed uri settings =>
    simp only [Books.enter]
    split <;> exact Nat.le_refl _
  | rested uri ticket =>
    simp only [Books.enter, Debounce.Register.claim?]
    split <;> exact Nat.le_refl _
  | _ => exact Nat.le_refl _

namespace Moment

/-- Some validation of a document draws a revision. -/
def DrawsFor (moment : Moment) (uri : Uri) : Prop :=
  ∃ id revision, moment.Draws id uri revision

theorem entry_eq_closed_iff (moment : Moment) (uri : Uri) :
    moment.session.entry moment.impulse = .closed uri ↔ moment.Closes uri := by
  obtain ⟨session, impulse⟩ := moment
  constructor
  · intro closed
    simp only [entry] at closed
    split at closed <;> try cases closed
    · exact ⟨_, rfl⟩
    · split at closed <;> cases closed
  · rintro ⟨host, now⟩
    simp only at now
    rw [now]
    rfl

/-- The books of a session with what an impulse says. -/
def entered (moment : Moment) : Books :=
  moment.session.books.enter (moment.session.entry moment.impulse)

theorem entered_revision (moment : Moment) : moment.entered.revision = moment.session.revision :=
  revision_enter ..

theorem entered_latest (moment : Moment) (uri : Uri) :
    moment.entered.latest.get? uri =
      if moment.session.entry moment.impulse = .closed uri then none
      else moment.session.latest.get? uri :=
  latest_enter ..

theorem books_after (moment : Moment) : moment.after.books = moment.entered.turned moment.turn? :=
  books_react ..

/-- A turn leaves documents and timers as they are. -/
theorem documents_after (moment : Moment) :
    moment.after.documents = moment.entered.documents ∧
      moment.after.timers = moment.entered.timers := by
  have same := moment.books_after
  have kept : (moment.entered.turned moment.turn?).documents = moment.entered.documents ∧
      (moment.entered.turned moment.turn?).timers = moment.entered.timers := by
    unfold Books.turned
    split
    · split <;> exact ⟨rfl, rfl⟩
    · exact ⟨rfl, rfl⟩
  rw [← same] at kept
  exact kept

theorem nextTicket_le_after (moment : Moment) :
    moment.session.timers.nextTicket ≤ moment.after.timers.nextTicket := by
  rw [moment.documents_after.2]
  exact nextTicket_enter moment.session.books _

/-- A moment draws no revision, or one for the validation that has its turn. -/
theorem draw_cases (moment : Moment) :
    (moment.after.revision = moment.session.revision ∧
        ∀ uri, moment.after.latest.get? uri = moment.entered.latest.get? uri) ∨
      ∃ turn, moment.turn? = some turn ∧ moment.after.isOpen turn.uri = true ∧
        moment.after.revision = moment.session.revision + 1 ∧
        ∀ uri, moment.after.latest.get? uri =
          if uri = turn.uri then some (moment.session.revision + 1)
          else moment.entered.latest.get? uri := by
  have same := moment.books_after
  have kept : moment.after.books = moment.entered →
      moment.after.revision = moment.session.revision ∧
        ∀ uri, moment.after.latest.get? uri = moment.entered.latest.get? uri := by
    intro equal
    refine ⟨(congrArg Books.revision equal).trans moment.entered_revision, ?_⟩
    intro uri
    exact congrArg (fun books => books.latest.get? uri) equal
  cases has : moment.turn? with
  | none =>
    rw [has] at same
    exact .inl (kept same)
  | some turn =>
    rw [has, Books.turned] at same
    split at same
    · rename_i able
      refine .inr ⟨turn, rfl, ?_, ?_, ?_⟩
      · rw [isOpen, moment.documents_after.1]
        exact able.2
      · rw [← moment.entered_revision]
        exact congrArg Books.revision same
      · intro uri
        rw [← Table.get?_put, ← moment.entered_revision]
        exact congrArg (fun books => books.latest.get? uri) same
    · exact .inl (kept same)

theorem revision_le_after (moment : Moment) : moment.session.revision ≤ moment.after.revision := by
  rcases moment.draw_cases with ⟨same, -⟩ | ⟨turn, -, -, next, -⟩
  · exact Nat.le_of_eq same.symm
  · rw [next]
    exact Nat.le_succ _

/-- A revision that is drawn is the next one and the latest of its document, which is open. -/
theorem after_draw {moment : Moment} {id : OperationId} {uri : Uri} {revision : Nat}
    (draws : moment.Draws id uri revision) :
    revision = moment.session.revision + 1 ∧
      moment.after.latest.get? uri = some revision ∧ moment.after.isOpen uri = true := by
  obtain ⟨⟨turn, has, -, rfl⟩, newer, rfl⟩ := draws
  rcases moment.draw_cases with ⟨same, -⟩ | ⟨drawn, turned, isOpen, next, latest⟩
  · rw [same] at newer
    exact absurd newer (Nat.lt_irrefl _)
  · obtain rfl := Option.some.inj (turned.symm.trans has)
    refine ⟨next, ?_, isOpen⟩
    rw [latest, if_pos rfl, next]

/-- The latest revision of a document stays while none is drawn for it and it is not closed. -/
theorem latest_undisturbed {moment : Moment} {uri : Uri} (undrawn : ¬ moment.DrawsFor uri)
    (unclosed : ¬ moment.Closes uri) :
    moment.after.latest.get? uri = moment.session.latest.get? uri := by
  have entered := moment.entered_latest uri
  rw [if_neg (mt (moment.entry_eq_closed_iff uri).mp unclosed)] at entered
  rcases moment.draw_cases with ⟨-, latest⟩ | ⟨turn, has, -, next, latest⟩
  · rw [latest, entered]
  · have different : uri ≠ turn.uri := by
      rintro rfl
      exact undrawn ⟨turn.id, _, ⟨turn, has, rfl, rfl⟩, next ▸ Nat.lt_succ_self _, rfl⟩
    rw [latest, if_neg different, entered]

theorem latest_closed {moment : Moment} {uri : Uri} (closes : moment.Closes uri) :
    moment.after.latest.get? uri = none := by
  have entered := moment.entered_latest uri
  rw [if_pos ((moment.entry_eq_closed_iff uri).mpr closes)] at entered
  rcases moment.draw_cases with ⟨-, latest⟩ | ⟨turn, has, -, -, -⟩
  · rw [latest, entered]
  · obtain ⟨host, now⟩ := closes
    simp only [turn?, now, Session.turn?] at has
    cases has

/-- A revision that is not the latest of a document never becomes it again. -/
theorem latest_superseded {moment : Moment} {uri : Uri} {revision : Nat}
    (drawn : revision ≤ moment.session.revision)
    (superseded : moment.session.latest.get? uri ≠ some revision) :
    moment.after.latest.get? uri ≠ some revision := by
  have entered : moment.entered.latest.get? uri ≠ some revision := by
    rw [moment.entered_latest]
    split
    · simp
    · exact superseded
  rcases moment.draw_cases with ⟨-, latest⟩ | ⟨turn, -, -, -, latest⟩
  · rw [latest]
    exact entered
  · rw [latest]
    split
    · intro same
      have equal := Option.some.inj same
      omega
    · exact entered

end Moment

end LanguageServer.Session
