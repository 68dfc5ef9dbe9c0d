import LanguageServer.Proofs.Session.Run

/-! Validations that have their turn. A validation that knows its settings looks for the compiler and
for its document, draws a revision and calls the compiler, all in one moment. -/

namespace LanguageServer.Session

/-- A validation that goes on with settings it knows: the compiler that they lead to and the file
that is made for it, as far as there are any. -/
structure Turn where
  id : OperationId
  uri : Uri
  cause : Cause
  settings : Settings
  executable : Option Path
  file : Option Path

def Turn.ofSettings (host : Host) (id : OperationId) (uri : Uri) (cause : Cause)
    (settings : Settings) : Turn :=
  ⟨id, uri, cause, settings, host.locate settings, host.scratch id⟩

/-- The turn of a validation that begins, unless it has to ask for its settings first. -/
def beginning? (host : Host) (session : Session) (id : OperationId) (uri : Uri) (cause : Cause) :
    Option Turn :=
  (session.settings? uri).map (Turn.ofSettings host id uri cause)

/-- The validation that has its turn in an input. -/
def turn? (host : Host) (session : Session) : Input → Option Turn
  | .start (.open uri _ _) =>
    if session.validated.contains uri then none
    else session.beginning? host session.nextOperation uri .asked
  | .start (.validate uri) => session.beginning? host session.nextOperation uri .asked
  | .settings id answer =>
    match session.operations.get? id with
    | some (.fetching (.validate uri cause)) =>
      some (Turn.ofSettings host id uri cause (layered session.general answer))
    | _ => none
  | .rested uri ticket =>
    if session.timers.pending.get? uri = some ticket then
      session.beginning? host session.nextOperation uri .rest
    else none
  | .turn id =>
    match session.operations.get? id with
    | some (.ready uri cause) => session.beginning? host id uri cause
    | _ => none
  | _ => none

def Moment.turn? (moment : Moment) : Option Turn :=
  match moment.impulse with
  | .input host input => moment.session.turn? host input
  | _ => none

/-- The moment at which a validation draws its revision. -/
def Moment.Draws (moment : Moment) (id : OperationId) (uri : Uri) (revision : Nat) : Prop :=
  (∃ turn, moment.turn? = some turn ∧ turn.id = id ∧ turn.uri = uri) ∧
    moment.session.revision < revision ∧ moment.after.revision = revision

/-- The session that a validation finds when it has its turn in an input. -/
def prepared (session : Session) : Input → Session
  | .start (.open uri text version) =>
    { session.draw.1 with
      documents := session.documents.put uri ⟨text, version⟩
      validated := uri :: session.validated }
  | .start _ => session.draw.1
  | .settings id answer =>
    match session.operations.get? id with
    | some (.fetching task) => session.keep task.uri (layered session.general answer)
    | _ => session
  | .rested uri _ =>
    { session.draw.1 with
      timers := { session.timers with pending := session.timers.pending.erase uri } }
  | _ => session

theorem validate_of_beginning {host : Host} (session : Session) {id : OperationId} {uri : Uri}
    {cause : Cause} {turn : Turn} (has : session.beginning? host id uri cause = some turn) :
    ∃ settings, turn = .ofSettings host id uri cause settings ∧
      session.validate host id uri cause = session.check host id uri cause settings := by
  obtain ⟨settings, known, rfl⟩ := Option.map_eq_some_iff.mp has
  exact ⟨settings, rfl, by rw [validate, known]⟩

theorem validate_of_not_beginning {host : Host} {session : Session} {id : OperationId} {uri : Uri}
    {cause : Cause} (none : session.beginning? host id uri cause = none) :
    session.validate host id uri cause =
      (session.suspend id (.fetching (.validate uri cause)), [.fetch id (some uri)]) := by
  have unknown : session.settings? uri = .none := Option.map_eq_none_iff.mp none
  rw [validate, unknown]

/-- The validation that has its turn in an input is what the input is about. -/
theorem step_of_turn {host : Host} {session : Session} {input : Input} {turn : Turn}
    (has : session.turn? host input = some turn) :
    ∃ id uri cause settings, turn = .ofSettings host id uri cause settings ∧
      session.step host input = (session.prepared input).check host id uri cause settings := by
  cases input with
  | start request =>
    cases request with
    | «open» uri text version =>
      by_cases known : session.validated.contains uri = true
      · simp only [turn?, known, if_true] at has
        cases has
      · simp only [turn?, known, Bool.false_eq_true, if_false] at has
        obtain ⟨settings, rfl, begun⟩ :=
          validate_of_beginning (session.prepared (.start (.open uri text version))) has
        refine ⟨_, _, _, _, rfl, ?_⟩
        rw [← begun]
        simp only [step, start, opened, draw, known, Bool.false_eq_true, if_false]
        rfl
    | validate uri =>
      obtain ⟨settings, rfl, begun⟩ := validate_of_beginning session.draw.1 has
      exact ⟨_, _, _, _, rfl, begun⟩
    | change uri text version => cases has
    | close uri => cases has
    | shutdown => cases has
    | configure settings => cases has
    | ask uri question => cases has
  | settings id answer =>
    simp only [turn?] at has
    split at has
    · rename_i uri cause waits
      obtain rfl := Option.some.inj has
      refine ⟨_, _, _, _, rfl, ?_⟩
      simp only [step, prepared, waits]
      rfl
    · cases has
  | ended id ending => cases has
  | rested uri ticket =>
    simp only [turn?] at has
    split at has
    · rename_i pending
      obtain ⟨settings, rfl, begun⟩ :=
        validate_of_beginning (session.prepared (.rested uri ticket)) has
      refine ⟨_, _, _, _, rfl, ?_⟩
      rw [← begun]
      simp only [step, Debounce.Register.claim?, pending, if_true]
      rfl
    · cases has
  | turn id =>
    simp only [turn?] at has
    split at has
    · rename_i uri cause waits
      obtain ⟨settings, rfl, begun⟩ := validate_of_beginning session has
      exact ⟨_, _, _, _, rfl, by simp only [step, waits, begun, prepared]⟩
    · cases has
  | abandon id => cases has

/-! ### What becomes of a turn -/

theorem resolve_found (host : Host) (session : Session) (settings : Settings) (executable : Path)
    (found : host.locate settings = some executable) :
    session.resolve host settings =
      ({ session with compiler := some executable }, some executable, []) := by
  simp [resolve, found]

@[simp]
theorem resolve_second (host : Host) (session : Session) (settings : Settings) :
    (session.resolve host settings).2.1 = host.locate settings := by
  unfold resolve
  dsimp only
  split <;> rfl

@[simp]
theorem resolve_documents (host : Host) (session : Session) (settings : Settings) :
    (session.resolve host settings).1.documents = session.documents := by
  unfold resolve
  dsimp only
  split <;> rfl

theorem check_skipped (host : Host) (session : Session) (id : OperationId) (uri : Uri)
    (cause : Cause) (settings : Settings)
    (missing : host.locate settings = none ∨ session.documents.get? uri = none) :
    session.check host id uri cause settings =
      (((session.resolve host settings).1.conclude id cause .skipped).1,
        (session.resolve host settings).2.2 ++
          ((session.resolve host settings).1.conclude id cause .skipped).2) := by
  have found : (session.resolve host settings).2.1 = host.locate settings := resolve_second ..
  have documents : (session.resolve host settings).1.documents = session.documents :=
    resolve_documents ..
  unfold check
  generalize session.resolve host settings = resolved at found documents ⊢
  obtain ⟨resolved, executable, notices⟩ := resolved
  dsimp only at found documents ⊢
  rw [found, documents]
  rcases missing with without | closed
  · rw [without]
  · rw [closed]
    split
    · rename_i absurdity
      cases absurdity
    · rfl

theorem check_failed (host : Host) (session : Session) (id : OperationId) (uri : Uri)
    (cause : Cause) (settings : Settings) (executable : Path) (document : Document)
    (found : host.locate settings = some executable)
    (present : session.documents.get? uri = some document) (missing : host.scratch id = none) :
    session.check host id uri cause settings =
      ({ session with compiler := some executable }.drawRevision uri).1.conclude id cause .failed := by
  unfold check
  rw [resolve_found host session settings executable found]
  dsimp only
  rw [present]
  dsimp only
  rw [missing]
  rfl

theorem check_called (host : Host) (session : Session) (id : OperationId) (uri : Uri)
    (cause : Cause) (settings : Settings) (executable file : Path) (document : Document)
    (found : host.locate settings = some executable)
    (present : session.documents.get? uri = some document) (made : host.scratch id = some file) :
    session.check host id uri cause settings =
      ((({ session with compiler := some executable }.drawRevision uri).1.store file
          document.text).suspend id
        (.checking ⟨uri, cause, session.revision + 1, document.version, settings.maxDiagnostics,
          executable, file⟩),
        [.call id executable (Compiler.checkArguments file) document.text]) := by
  unfold check
  rw [resolve_found host session settings executable found]
  dsimp only
  rw [present]
  dsimp only
  rw [made]
  rfl

end LanguageServer.Session
