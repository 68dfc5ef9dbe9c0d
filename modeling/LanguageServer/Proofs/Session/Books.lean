import LanguageServer.Proofs.Session.Turn

/-! The books of a session: what it knows about documents, apart from the operations under way.

Whatever an operation does, an impulse changes the books in one of few ways: it enters what it says
itself, and the validation that has its turn, if there is one, may draw a revision. -/

namespace LanguageServer.Session

/-- What a session knows about documents. -/
structure Books where
  documents : Table Uri Document
  settings : Table Uri Settings
  general : Settings
  pulls : Bool
  validated : List Uri
  latest : Table Uri Nat
  revision : Nat
  timers : Debounce.Register Uri

def books (session : Session) : Books :=
  ⟨session.documents, session.settings, session.general, session.pulls, session.validated,
    session.latest, session.revision, session.timers⟩

/-! ### Entries -/

/-- What an impulse itself says about documents and settings. -/
inductive Entry
  | nothing
  | opened (uri : Uri) (document : Document)
  | changed (uri : Uri) (text : String) (version : Int)
  | closed (uri : Uri)
  /-- Nothing is to be done at rest any more. -/
  | stopped
  | configured (settings : Option Settings)
  /-- The settings of a document have arrived. -/
  | informed (uri : Uri) (settings : Settings)
  | rested (uri : Uri) (ticket : Nat)
  | supported (pulls : Bool)
  | general (settings : Settings)
  deriving DecidableEq

def entry (session : Session) : Impulse → Entry
  | .input _ (.start (.open uri text version)) => .opened uri ⟨text, version⟩
  | .input _ (.start (.change uri text version)) => .changed uri text version
  | .input _ (.start (.close uri)) => .closed uri
  | .input _ (.start .shutdown) => .stopped
  | .input _ (.start (.configure settings)) => .configured settings
  | .input _ (.settings id answer) =>
    match session.operations.get? id with
    | some (.fetching task) => .informed task.uri (layered session.general answer)
    | _ => .nothing
  | .input _ (.rested uri ticket) => .rested uri ticket
  | .input _ _ => .nothing
  | .support pulls => .supported pulls
  | .general settings => .general settings

namespace Books

def enter (books : Books) : Entry → Books
  | .nothing => books
  | .opened uri document =>
    { books with
      documents := books.documents.put uri document
      validated := if books.validated.contains uri then books.validated else uri :: books.validated }
  | .changed uri text version =>
    match books.documents.get? uri with
    | none => books
    | some document =>
      { books with
        documents := books.documents.put uri (document.update text version)
        timers := (books.timers.schedule uri).1 }
  | .closed uri =>
    { books with
      timers := (books.timers.cancel uri).1
      documents := books.documents.erase uri
      settings := books.settings.erase uri
      validated := books.validated.filter (· ≠ uri)
      latest := books.latest.erase uri }
  | .stopped => { books with timers := books.timers.cancelAll }
  | .configured settings => { books with general := settings.getD books.general, settings := ∅ }
  | .informed uri settings =>
    if books.documents.contains uri then { books with settings := books.settings.put uri settings }
    else books
  | .rested uri ticket => { books with timers := (books.timers.claim? uri ticket).getD books.timers }
  | .supported pulls => { books with pulls := pulls }
  | .general settings => { books with general := settings }

/-- The books after a document has drawn a revision. -/
def drawn (books : Books) (uri : Uri) : Books :=
  { books with revision := books.revision + 1, latest := books.latest.put uri (books.revision + 1) }

/-- The books after a validation has had its turn. It draws a revision if there is a compiler for it
and its document is open. -/
def turned (books : Books) : Option Turn → Books
  | some turn =>
    if turn.executable.isSome ∧ books.documents.contains turn.uri then books.drawn turn.uri
    else books
  | none => books

end Books

/-! ### Parts that leave the books alone -/

@[simp]
theorem books_suspend (session : Session) (id : OperationId) (stage : Stage) :
    (session.suspend id stage).books = session.books := rfl

@[simp]
theorem books_draw (session : Session) : session.draw.1.books = session.books := rfl

@[simp]
theorem books_store (session : Session) (file : Path) (text : String) :
    (session.store file text).books = session.books := rfl

@[simp]
theorem books_discard (session : Session) (file : Path) :
    (session.discard file).books = session.books := rfl

@[simp]
theorem books_resolve (host : Host) (session : Session) (settings : Settings) :
    (session.resolve host settings).1.books = session.books := by
  unfold resolve
  dsimp only
  split <;> rfl

@[simp]
theorem books_alarm (session : Session) (detail : String) :
    (session.alarm detail).1.books = session.books := by
  unfold alarm
  split <;> rfl

@[simp]
theorem books_release (session : Session) (id : OperationId) :
    (session.release id).1.books = session.books := by
  unfold release
  split <;> rfl

@[simp]
theorem books_conclude (session : Session) (id : OperationId) (cause : Cause) (outcome : Outcome) :
    (session.conclude id cause outcome).1.books = session.books := by
  cases cause with
  | change change => exact books_release (session.finish id) change
  | asked => rfl
  | rest => rfl

@[simp]
theorem books_reply (session : Session) (id : OperationId) (reply : Option Reply) :
    (session.reply id reply).1.books = session.books := rfl

@[simp]
theorem books_query (host : Host) (session : Session) (id : OperationId) (inquiry : Inquiry)
    (settings : Settings) : (session.query host id inquiry settings).1.books = session.books := by
  unfold query
  dsimp only
  split
  · rw [books_suspend, books_store, books_resolve]
  · rw [books_reply, books_resolve]

@[simp]
theorem books_inquire (host : Host) (session : Session) (id : OperationId) (inquiry : Inquiry) :
    (session.inquire host id inquiry).1.books = session.books := by
  unfold inquire
  split
  · exact books_query host session id inquiry _
  · rfl

@[simp]
theorem books_ask (host : Host) (session : Session) (id : OperationId) (uri : Uri)
    (question : Question) : (session.ask host id uri question).1.books = session.books := by
  unfold ask
  split
  · exact books_inquire host session id _
  · rfl

@[simp]
theorem books_answered (session : Session) (id : OperationId) (inquiry : Inquiry)
    (executable scratch : Path) (ending : Compiler.Ending) :
    (session.answered id inquiry executable scratch ending).1.books = session.books := by
  unfold answered
  dsimp only
  split
  · rfl
  · split
    · rw [books_reply, books_alarm, books_discard]
    · rfl

@[simp]
theorem books_checked (session : Session) (id : OperationId) (check : Check)
    (ending : Compiler.Ending) : (session.checked id check ending).1.books = session.books := by
  unfold checked
  dsimp only
  split
  · rw [books_conclude, books_alarm, books_discard]
  · split
    · rw [books_conclude, books_discard]
    · rw [books_conclude, books_discard]

@[simp]
theorem books_fanOut (session : Session) (change : OperationId) (uris : List Uri) :
    (session.fanOut change uris).1.books = session.books := by
  induction uris generalizing session with
  | nil => rfl
  | cons uri rest ih =>
    unfold fanOut
    rw [ih, books_suspend, books_draw]

@[simp]
theorem books_reconfigured (host : Host) (session : Session) (id : OperationId)
    (settings : Settings) :
    (session.reconfigured host id settings).1.books = session.books := by
  unfold reconfigured
  dsimp only
  split
  · rfl
  · split
    · rfl
    · rw [books_fanOut]
      rfl

/-! ### Parts that change the books -/

theorem books_keep (session : Session) (uri : Uri) (settings : Settings) :
    (session.keep uri settings).books = session.books.enter (.informed uri settings) := by
  by_cases isOpen : session.documents.contains uri = true
  · simp [keep, Session.isOpen, Books.enter, books, isOpen]
  · simp [keep, Session.isOpen, Books.enter, books, isOpen]

theorem books_check (host : Host) (session : Session) (id : OperationId) (uri : Uri)
    (cause : Cause) (settings : Settings) :
    (session.check host id uri cause settings).1.books =
      session.books.turned (some (.ofSettings host id uri cause settings)) := by
  cases found : host.locate settings with
  | none =>
    rw [check_skipped host session id uri cause settings (.inl found), books_conclude,
      books_resolve]
    simp [Books.turned, Turn.ofSettings, found]
  | some executable =>
    cases present : session.documents.get? uri with
    | none =>
      rw [check_skipped host session id uri cause settings (.inr present), books_conclude,
        books_resolve]
      simp [Books.turned, Turn.ofSettings, Table.contains, books, present]
    | some document =>
      have turned : session.books.turned (some (.ofSettings host id uri cause settings)) =
          session.books.drawn uri := by
        simp [Books.turned, Turn.ofSettings, Table.contains, books, found, present]
      rw [turned]
      cases made : host.scratch id with
      | none =>
        rw [check_failed host session id uri cause settings executable document found present made,
          books_conclude]
        rfl
      | some file =>
        rw [check_called host session id uri cause settings executable file document found present
          made]
        rfl

theorem books_validate (host : Host) (session : Session) (id : OperationId) (uri : Uri)
    (cause : Cause) :
    (session.validate host id uri cause).1.books =
      session.books.turned (session.beginning? host id uri cause) := by
  cases has : session.beginning? host id uri cause with
  | none =>
    rw [validate_of_not_beginning has]
    rfl
  | some turn =>
    obtain ⟨settings, rfl, begun⟩ := validate_of_beginning session has
    rw [begun, books_check]

theorem books_opened (host : Host) (session : Session) (id : OperationId) (uri : Uri)
    (document : Document) :
    (session.opened host id uri document).1.books =
      (session.books.enter (.opened uri document)).turned
        (if session.validated.contains uri then none
          else session.beginning? host id uri .asked) := by
  unfold opened
  dsimp only
  split
  · rename_i known
    simp only [Books.enter, Books.turned, books, known, if_true]
  · rename_i new
    rw [books_validate]
    simp only [Books.enter, books, new]
    rfl

theorem books_changed (session : Session) (id : OperationId) (uri : Uri) (text : String)
    (version : Int) :
    (session.changed id uri text version).1.books =
      session.books.enter (.changed uri text version) := by
  unfold changed
  cases present : session.documents.get? uri with
  | none => simp [Books.enter, books, present]
  | some document => simp [Books.enter, books, present]

theorem books_configure (host : Host) (session : Session) (id : OperationId)
    (settings : Option Settings) :
    (session.configure host id settings).1.books =
      session.books.enter (.configured settings) := by
  unfold configure
  dsimp only
  split
  · rfl
  · rw [books_reconfigured]
    rfl

theorem books_informed (host : Host) (session : Session) (id : OperationId) (uri : Uri)
    (cause : Cause) (answer : Option Json) :
    (session.informed host id (.validate uri cause) answer).1.books =
      (session.books.enter (.informed uri (layered session.general answer))).turned
        (some (.ofSettings host id uri cause (layered session.general answer))) := by
  unfold informed
  dsimp only [Task.uri]
  rw [books_check, books_keep]

/-- An impulse enters what it says into the books, and the validation that has its turn goes on. -/
theorem books_react (session : Session) (impulse : Impulse) :
    (session.react impulse).1.books =
      (session.books.enter (session.entry impulse)).turned (Moment.turn? ⟨session, impulse⟩) := by
  cases impulse with
  | support pulls => rfl
  | general settings => rfl
  | input host input =>
    cases input with
    | start request =>
      cases request with
      | «open» uri text version => exact books_opened host session.draw.1 _ uri ⟨text, version⟩
      | change uri text version => exact books_changed session.draw.1 _ uri text version
      | close uri => rfl
      | shutdown => rfl
      | validate uri => exact books_validate host session.draw.1 _ uri .asked
      | configure settings => exact books_configure host session.draw.1 _ settings
      | ask uri question => exact books_ask host session.draw.1 _ uri question
    | settings id answer =>
      simp only [react, step, entry, Moment.turn?, turn?]
      cases session.operations.get? id with
      | none => rfl
      | some stage =>
        cases stage with
        | fetching task =>
          cases task with
          | validate uri cause => exact books_informed host session id uri cause answer
          | inquire inquiry =>
            simp [informed, books_keep, Task.uri, Books.turned]
        | reconfiguring general => simp [Books.enter, Books.turned]
        | ready uri cause => rfl
        | checking check => rfl
        | asking inquiry executable scratch => rfl
        | revalidating waiting count => rfl
    | ended id ending =>
      simp only [react, step, entry, Moment.turn?, turn?]
      split <;> simp [Books.enter, Books.turned]
    | rested uri ticket =>
      simp only [react, step, entry, Moment.turn?, turn?, Debounce.Register.claim?]
      by_cases pending : session.timers.pending.get? uri = some ticket
      · simp only [pending, if_true]
        rw [books_validate]
        simp only [Books.enter, books, Debounce.Register.claim?, pending, if_true]
        rfl
      · simp only [pending, if_false, Books.enter, books, Debounce.Register.claim?]
        rfl
    | turn id =>
      simp only [react, step, entry, Moment.turn?, turn?]
      cases session.operations.get? id with
      | none => rfl
      | some stage =>
        cases stage with
        | ready uri cause => exact books_validate host session id uri cause
        | revalidating waiting count => cases waiting <;> rfl
        | fetching task => rfl
        | checking check => rfl
        | asking inquiry executable scratch => rfl
        | reconfiguring general => rfl
    | abandon id =>
      simp only [react, step, entry, Moment.turn?, turn?]
      split <;> rfl

end LanguageServer.Session
