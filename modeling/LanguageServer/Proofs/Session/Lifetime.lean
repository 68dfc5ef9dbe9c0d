import LanguageServer.Proofs.Session.Books
import LanguageServer.Proofs.Session.Progress

/-! How long a session remembers a document: as long as it is open. What an operation learns after
its document was closed is not written down. -/

namespace LanguageServer.Session

/-- Nothing is kept about documents that are not open. -/
structure Books.Tidy (books : Books) : Prop where
  validated : ∀ uri, uri ∈ books.validated ↔ books.documents.contains uri = true
  settings : ∀ uri, books.settings.contains uri = true → books.documents.contains uri = true
  latest : ∀ uri, books.latest.contains uri = true → books.documents.contains uri = true
  timers : ∀ uri, books.timers.pending.contains uri = true → books.documents.contains uri = true

namespace Books.Tidy

variable {books : Books}

theorem opened (tidy : books.Tidy) (uri : Uri) (document : Document) :
    (books.enter (.opened uri document)).Tidy := by
  have wider : ∀ other, books.documents.contains other = true →
      (books.documents.put uri document).contains other = true :=
    fun other present => (Table.contains_put ..).mpr (.inr present)
  refine ⟨?_, fun other kept => wider other (tidy.settings other kept),
    fun other kept => wider other (tidy.latest other kept),
    fun other kept => wider other (tidy.timers other kept)⟩
  intro other
  simp only [enter, Table.contains_put, ← tidy.validated]
  split
  · rename_i known
    have member : uri ∈ books.validated := by simpa using known
    constructor
    · exact .inr
    · rintro (rfl | present)
      · exact member
      · exact present
  · exact List.mem_cons

theorem changed (tidy : books.Tidy) (uri : Uri) (text : String) (version : Int) :
    (books.enter (.changed uri text version)).Tidy := by
  simp only [enter]
  cases present : books.documents.get? uri with
  | none => exact tidy
  | some document =>
    have same : ∀ other, (books.documents.put uri (document.update text version)).contains other =
        true ↔ books.documents.contains other = true := by
      intro other
      rw [Table.contains_put]
      constructor
      · rintro (rfl | known)
        · exact (Table.contains_iff ..).mpr ⟨document, present⟩
        · exact known
      · exact .inr
    refine ⟨fun other => (tidy.validated other).trans (same other).symm,
      fun other kept => (same other).mpr (tidy.settings other kept),
      fun other kept => (same other).mpr (tidy.latest other kept), ?_⟩
    intro other pending
    rcases (Table.contains_put ..).mp pending with rfl | known
    · exact (same other).mpr ((Table.contains_iff ..).mpr ⟨document, present⟩)
    · exact (same other).mpr (tidy.timers other known)

theorem closed (tidy : books.Tidy) (uri : Uri) : (books.enter (.closed uri)).Tidy := by
  have narrower : ∀ {ν : Type} (table : Table Uri ν),
      (∀ other, table.contains other = true → books.documents.contains other = true) →
      ∀ other, (table.erase uri).contains other = true →
        (books.documents.erase uri).contains other = true := by
    intro ν table within other kept
    obtain ⟨different, present⟩ := (Table.contains_erase ..).mp kept
    exact (Table.contains_erase ..).mpr ⟨different, within other present⟩
  refine ⟨?_, narrower _ tidy.settings, narrower _ tidy.latest, narrower _ tidy.timers⟩
  intro other
  simp only [enter, List.mem_filter, Table.contains_erase, tidy.validated]
  simp [and_comm]

theorem informed (tidy : books.Tidy) (uri : Uri) (settings : Settings) :
    (books.enter (.informed uri settings)).Tidy := by
  simp only [enter]
  split
  · rename_i isOpen
    refine ⟨tidy.validated, ?_, tidy.latest, tidy.timers⟩
    intro other kept
    rcases (Table.contains_put ..).mp kept with rfl | known
    · exact isOpen
    · exact tidy.settings other known
  · exact tidy

theorem rested (tidy : books.Tidy) (uri : Uri) (ticket : Nat) :
    (books.enter (.rested uri ticket)).Tidy := by
  refine ⟨tidy.validated, tidy.settings, tidy.latest, ?_⟩
  intro other pending
  simp only [enter, Debounce.Register.claim?] at pending
  split at pending
  · exact tidy.timers other ((Table.contains_erase ..).mp pending).2
  · exact tidy.timers other pending

theorem enter (tidy : books.Tidy) (entry : Entry) : (books.enter entry).Tidy := by
  cases entry with
  | nothing => exact tidy
  | opened uri document => exact tidy.opened uri document
  | changed uri text version => exact tidy.changed uri text version
  | closed uri => exact tidy.closed uri
  | stopped => exact ⟨tidy.validated, tidy.settings, tidy.latest, fun _ pending => nomatch pending⟩
  | configured settings =>
    exact ⟨tidy.validated, (fun _ kept => nomatch kept), tidy.latest, tidy.timers⟩
  | informed uri settings => exact tidy.informed uri settings
  | rested uri ticket => exact tidy.rested uri ticket
  | supported pulls => exact ⟨tidy.validated, tidy.settings, tidy.latest, tidy.timers⟩
  | general settings => exact ⟨tidy.validated, tidy.settings, tidy.latest, tidy.timers⟩

theorem turned (tidy : books.Tidy) (turn : Option Turn) : (books.turned turn).Tidy := by
  cases turn with
  | none => exact tidy
  | some turn =>
    simp only [Books.turned]
    split
    · rename_i able
      refine ⟨tidy.validated, tidy.settings, ?_, tidy.timers⟩
      intro other kept
      rcases (Table.contains_put ..).mp kept with rfl | known
      · exact able.2
      · exact tidy.latest other known
    · exact tidy

end Books.Tidy

theorem tidy_react (session : Session) (impulse : Impulse) (tidy : session.books.Tidy) :
    (session.react impulse).1.books.Tidy := by
  rw [books_react]
  exact (tidy.enter _).turned _

theorem tidy_run (general : Settings) (impulses : List Impulse) :
    ((fresh general).after impulses).books.Tidy := by
  refine after_induction (motive := fun session => session.books.Tidy) tidy_react _ ?_ impulses
  exact ⟨fun _ => by simp [books, fresh], (fun _ kept => nomatch kept), (fun _ kept => nomatch kept),
    (fun _ kept => nomatch kept)⟩

/-! ### Opening a document -/

/-- A new operation is a validation of a document: it is under way, or has come to an outcome. -/
def Moment.StartsValidation (moment : Moment) (uri : Uri) : Prop :=
  (∃ standing, moment.after.standing? moment.session.nextOperation = some standing ∧
      standing.uri = uri) ∨
    ∃ outcome, .done moment.session.nextOperation (.outcome (some outcome)) ∈ moment.effects

theorem done_mem_conclude (session : Session) (id : OperationId) (cause : Cause)
    (outcome : Outcome) :
    .done id (.outcome (some outcome)) ∈ (session.conclude id cause outcome).2 :=
  List.mem_cons_self ..

theorem check_starts (host : Host) (session : Session) (id : OperationId) (uri : Uri)
    (cause : Cause) (settings : Settings) :
    (∃ standing, (session.check host id uri cause settings).1.standing? id = some standing ∧
        standing.uri = uri) ∨
      ∃ outcome, .done id (.outcome (some outcome)) ∈
        (session.check host id uri cause settings).2 := by
  have skipped : (host.locate settings = none ∨ session.documents.get? uri = none) →
      .done id (.outcome (some .skipped)) ∈ (session.check host id uri cause settings).2 := by
    intro missing
    rw [check_skipped host session id uri cause settings missing]
    exact List.mem_append_right _ (done_mem_conclude ..)
  cases found : host.locate settings with
  | none => exact .inr ⟨.skipped, skipped (.inl found)⟩
  | some executable =>
    cases present : session.documents.get? uri with
    | none => exact .inr ⟨.skipped, skipped (.inr present)⟩
    | some document =>
      cases made : host.scratch id with
      | none =>
        rw [check_failed host session id uri cause settings executable document found present made]
        exact .inr ⟨.failed, done_mem_conclude ..⟩
      | some file =>
        rw [check_called host session id uri cause settings executable file document found present
          made]
        exact .inl ⟨_, standing?_suspend_self .., rfl⟩

theorem validate_starts (host : Host) (session : Session) (id : OperationId) (uri : Uri)
    (cause : Cause) :
    (∃ standing, (session.validate host id uri cause).1.standing? id = some standing ∧
        standing.uri = uri) ∨
      ∃ outcome, .done id (.outcome (some outcome)) ∈ (session.validate host id uri cause).2 := by
  cases begun : session.beginning? host id uri cause with
  | none => exact .inl ⟨_, standing?_validate_self begun, rfl⟩
  | some turn =>
    obtain ⟨settings, -, same⟩ := validate_of_beginning session begun
    rw [same]
    exact check_starts ..

/-- A document that was validated before is only taken over. -/
theorem not_startsValidation {session : Session} (numbered : session.Numbered) (host : Host)
    {uri : Uri} (text : String) (version : Int) (known : uri ∈ session.validated) :
    ¬ (⟨session, .input host (.start (.open uri text version))⟩ : Moment).StartsValidation uri := by
  have unused : session.operations.get? session.nextOperation = none := numbered _ (Nat.le_refl _)
  rintro (⟨standing, under, -⟩ | ⟨outcome, ended⟩)
  · simp [Moment.after, react, step, start, opened, draw, known, standing?, unused] at under
  · simp [Moment.effects, react, step, start, opened, draw, known] at ended

theorem startsValidation {session : Session} (host : Host) {uri : Uri} (text : String)
    (version : Int) (new : uri ∉ session.validated) :
    (⟨session, .input host (.start (.open uri text version))⟩ : Moment).StartsValidation uri := by
  have absent : session.validated.contains uri = false := by simpa using new
  have begins : session.step host (.start (.open uri text version)) =
      (session.prepared (.start (.open uri text version))).validate host session.nextOperation uri
        .asked := by
    simp only [step, start, opened, draw, absent, Bool.false_eq_true, if_false]
    rfl
  unfold Moment.StartsValidation Moment.after Moment.effects react
  dsimp only
  rw [begins]
  exact validate_starts ..

/-- In every run, a session keeps settings, revisions and timers only of documents that are open,
and has validated exactly these. So a document is validated when it is opened if and only if it was
not open already. -/
theorem state_only_of_open_documents (general : Settings) (impulses : List Impulse) :
    let session := (fresh general).after impulses
    (∀ uri, uri ∈ session.validated ↔ session.isOpen uri = true) ∧
      (∀ uri, session.settings.contains uri = true → session.isOpen uri = true) ∧
      (∀ uri, session.latest.contains uri = true → session.isOpen uri = true) ∧
      (∀ uri, session.timers.pending.contains uri = true → session.isOpen uri = true) ∧
      ∀ host uri text version,
        (⟨session, .input host (.start (.open uri text version))⟩ : Moment).StartsValidation uri ↔
          session.isOpen uri = false := by
  intro session
  have tidy := tidy_run general impulses
  refine ⟨tidy.validated, tidy.settings, tidy.latest, tidy.timers, ?_⟩
  intro host uri text version
  have validated : uri ∈ session.validated ↔ session.isOpen uri = true := tidy.validated uri
  constructor
  · intro starts
    refine Bool.eq_false_iff.mpr fun isOpen => ?_
    exact not_startsValidation (numbered_run general impulses) host text version
      (validated.mpr isOpen) starts
  · intro isClosed
    refine startsValidation host text version fun known => ?_
    rw [validated.mp known] at isClosed
    cases isClosed

end LanguageServer.Session
