import LanguageServer.Proofs.Session.Turn

/-! How a session looks for the compiler. Validations, questions and changes of the configuration all
do so with the settings that hold for them, and the session remembers what was found last. -/

namespace LanguageServer.Session

/-- A search for the compiler: the document that it is for, unless it is for all, the settings that it
goes by and what it finds. -/
structure Lookup where
  scope : Option Uri
  settings : Settings
  found : Option Path

def Lookup.ofSettings (host : Host) (scope : Option Uri) (settings : Settings) : Lookup :=
  ⟨scope, settings, host.locate settings⟩

/-- The search for a document, unless the editor has to be asked for its settings first. -/
def known? (host : Host) (session : Session) (uri : Uri) : Option Lookup :=
  (session.settings? uri).map (Lookup.ofSettings host (some uri))

/-- The search that is made in an input. -/
def lookup? (host : Host) (session : Session) : Input → Option Lookup
  | .start (.open uri _ _) =>
    if session.validated.contains uri then none else session.known? host uri
  | .start (.validate uri) => session.known? host uri
  | .start (.configure settings) =>
    if session.pulls then none else some (.ofSettings host none (settings.getD session.general))
  | .start (.ask uri question) =>
    (session.inquiry? uri question).bind fun inquiry => session.known? host inquiry.uri
  | .settings id answer =>
    match session.operations.get? id with
    | some (.fetching task) =>
      some (.ofSettings host (some task.uri) (layered session.general answer))
    | some (.reconfiguring general) => some (.ofSettings host none (layered general answer))
    | _ => none
  | .rested uri ticket =>
    if session.timers.pending.get? uri = some ticket then session.known? host uri else none
  | .turn id =>
    match session.operations.get? id with
    | some (.ready uri _) => session.known? host uri
    | _ => none
  | _ => none

def Moment.lookup? (moment : Moment) : Option Lookup :=
  match moment.impulse with
  | .input host input => moment.session.lookup? host input
  | _ => none

/-- The compiler after a search, if one is made. -/
def Lookup.outcome (before : Option Path) (lookup : Option Lookup) : Option Path :=
  (lookup.map Lookup.found).getD before

/-! ### What the parts of an operation remember -/

@[simp]
theorem compiler_resolve (host : Host) (session : Session) (settings : Settings) :
    (session.resolve host settings).1.compiler = host.locate settings := by
  unfold resolve
  dsimp only
  split <;> rfl

@[simp]
theorem compiler_alarm (session : Session) (detail : String) :
    (session.alarm detail).1.compiler = session.compiler := by
  unfold alarm
  split <;> rfl

@[simp]
theorem compiler_conclude (session : Session) (id : OperationId) (cause : Cause)
    (outcome : Outcome) : (session.conclude id cause outcome).1.compiler = session.compiler := by
  cases cause with
  | asked => rfl
  | rest => rfl
  | change change =>
    simp only [conclude, release]
    split <;> rfl

@[simp]
theorem compiler_check (host : Host) (session : Session) (id : OperationId) (uri : Uri)
    (cause : Cause) (settings : Settings) :
    (session.check host id uri cause settings).1.compiler = host.locate settings := by
  cases found : host.locate settings with
  | none =>
    rw [check_skipped host session id uri cause settings (.inl found), compiler_conclude,
      compiler_resolve, found]
  | some executable =>
    cases present : session.documents.get? uri with
    | none =>
      rw [check_skipped host session id uri cause settings (.inr present), compiler_conclude,
        compiler_resolve, found]
    | some document =>
      cases made : host.scratch id with
      | none =>
        rw [check_failed host session id uri cause settings executable document found present made,
          compiler_conclude]
        rfl
      | some file =>
        rw [check_called host session id uri cause settings executable file document found present
          made]
        rfl

@[simp]
theorem compiler_query (host : Host) (session : Session) (id : OperationId) (inquiry : Inquiry)
    (settings : Settings) :
    (session.query host id inquiry settings).1.compiler = host.locate settings := by
  unfold query
  dsimp only
  split
  · exact compiler_resolve host session settings
  · exact compiler_resolve host session settings

@[simp]
theorem compiler_fanOut (session : Session) (change : OperationId) (uris : List Uri) :
    (session.fanOut change uris).1.compiler = session.compiler := by
  induction uris generalizing session with
  | nil => rfl
  | cons uri rest ih =>
    unfold fanOut
    exact ih _

@[simp]
theorem compiler_reconfigured (host : Host) (session : Session) (id : OperationId)
    (settings : Settings) :
    (session.reconfigured host id settings).1.compiler = host.locate settings := by
  unfold reconfigured
  dsimp only
  split
  · assumption
  · split
    · rfl
    · exact compiler_fanOut ..

theorem compiler_validate (host : Host) (session : Session) (id : OperationId) (uri : Uri)
    (cause : Cause) :
    (session.validate host id uri cause).1.compiler =
      Lookup.outcome session.compiler (session.known? host uri) := by
  unfold validate known?
  cases session.settings? uri with
  | none => rfl
  | some settings => exact compiler_check ..

theorem compiler_ask (host : Host) (session : Session) (id : OperationId) (uri : Uri)
    (question : Question) :
    (session.ask host id uri question).1.compiler =
      Lookup.outcome session.compiler
        ((session.inquiry? uri question).bind fun inquiry => session.known? host inquiry.uri) := by
  unfold ask
  cases session.inquiry? uri question with
  | none => rfl
  | some inquiry =>
    simp only [inquire, known?, Option.bind_some]
    cases session.settings? inquiry.uri with
    | none => rfl
    | some settings => exact compiler_query ..

theorem compiler_checked (session : Session) (id : OperationId) (check : Check)
    (ending : Compiler.Ending) :
    (session.checked id check ending).1.compiler = session.compiler := by
  unfold checked
  dsimp only
  split
  · rw [compiler_conclude, compiler_alarm]
    rfl
  · split
    · rw [compiler_conclude]
      rfl
    · rw [compiler_conclude]
      rfl

theorem compiler_answered (session : Session) (id : OperationId) (inquiry : Inquiry)
    (executable scratch : Path) (ending : Compiler.Ending) :
    (session.answered id inquiry executable scratch ending).1.compiler = session.compiler := by
  unfold answered
  dsimp only
  split
  · rfl
  · split
    · exact compiler_alarm ..
    · rfl

/-- The compiler that a session remembers is the one that was found last. -/
theorem Moment.compiler_after (moment : Moment) :
    moment.after.compiler = Lookup.outcome moment.session.compiler moment.lookup? := by
  obtain ⟨session, impulse⟩ := moment
  cases impulse with
  | support pulls => rfl
  | general settings => rfl
  | input host input =>
    cases input with
    | start request =>
      cases request with
      | «open» uri text version =>
        simp only [after, react, step, start, opened, draw, lookup?, Session.lookup?]
        by_cases known : session.validated.contains uri = true
        · simp only [known, if_true]
          rfl
        · simp only [known, Bool.false_eq_true, if_false]
          exact compiler_validate ..
      | change uri text version =>
        simp only [after, react, step, start, changed, draw]
        split <;> rfl
      | close uri => rfl
      | shutdown => rfl
      | validate uri => exact compiler_validate host session.draw.1 _ uri .asked
      | configure settings =>
        simp only [after, react, step, start, configure, draw, lookup?, Session.lookup?]
        by_cases pulls : session.pulls = true
        · simp only [pulls, if_true]
          rfl
        · simp only [pulls, Bool.false_eq_true, if_false]
          exact compiler_reconfigured ..
      | ask uri question => exact compiler_ask host session.draw.1 _ uri question
    | settings id answer =>
      simp only [after, react, step, lookup?, Session.lookup?]
      cases session.operations.get? id with
      | none => rfl
      | some stage =>
        cases stage with
        | fetching task =>
          cases task with
          | validate uri cause => exact compiler_check ..
          | inquire inquiry => exact compiler_query ..
        | reconfiguring general => exact compiler_reconfigured ..
        | ready uri cause => rfl
        | checking check => rfl
        | asking inquiry executable scratch => rfl
        | revalidating waiting count => rfl
    | ended id ending =>
      simp only [after, react, step]
      split
      · exact compiler_checked ..
      · exact compiler_answered ..
      · rfl
    | rested uri ticket =>
      simp only [after, react, step, Debounce.Register.claim?, lookup?, Session.lookup?]
      by_cases pending : session.timers.pending.get? uri = some ticket
      · simp only [pending, if_true]
        exact compiler_validate ..
      · simp only [pending, if_false]
        rfl
    | turn id =>
      simp only [after, react, step, lookup?, Session.lookup?]
      cases session.operations.get? id with
      | none => rfl
      | some stage =>
        cases stage with
        | ready uri cause => exact compiler_validate ..
        | revalidating waiting count => cases waiting <;> rfl
        | fetching task => rfl
        | checking check => rfl
        | asking inquiry executable scratch => rfl
        | reconfiguring general => rfl
    | abandon id =>
      simp only [after, react, step]
      split <;> rfl

/-- The compiler that the last search of a run found. -/
def foundLast (run : List Moment) : Option Path :=
  (run.filterMap Moment.lookup?).getLast?.bind Lookup.found

theorem foundLast_append (run : List Moment) (moment : Moment) :
    foundLast (run ++ [moment]) = Lookup.outcome (foundLast run) moment.lookup? := by
  rw [foundLast, List.filterMap_append]
  cases made : moment.lookup? with
  | none => simp [foundLast, made, Lookup.outcome]
  | some lookup => simp [made, Lookup.outcome]

theorem compiler_run (general : Settings) (impulses : List Impulse) :
    ((fresh general).after impulses).compiler = foundLast ((fresh general).moments impulses) := by
  refine run_induction (motive := fun past session => session.compiler = foundLast past)
    ?_ [] (fresh general) rfl impulses
  intro past session impulse before
  rw [foundLast_append, ← before]
  exact Moment.compiler_after ⟨session, impulse⟩

/-! ### Where the settings of a search come from -/

theorem Moment.lookup_of_turn {moment : Moment} {turn : Turn} (has : moment.turn? = some turn) :
    moment.lookup? = some ⟨some turn.uri, turn.settings, turn.executable⟩ := by
  obtain ⟨session, impulse⟩ := moment
  have begun : ∀ {host id uri cause}, session.beginning? host id uri cause = some turn →
      session.known? host uri = some ⟨some turn.uri, turn.settings, turn.executable⟩ := by
    intro host id uri cause begins
    obtain ⟨settings, known, rfl⟩ := Option.map_eq_some_iff.mp begins
    rw [known?, known]
    rfl
  cases impulse with
  | support pulls => cases has
  | general settings => cases has
  | input host input =>
    simp only [turn?, Session.turn?] at has
    split at has
    · split at has
      · cases has
      · rename_i new
        simp only [lookup?, Session.lookup?, new]
        exact begun has
    · exact begun has
    · split at has
      · rename_i waits
        obtain rfl := Option.some.inj has
        simp only [lookup?, Session.lookup?, waits]
        rfl
      · cases has
    · split at has
      · rename_i pending
        simp only [lookup?, Session.lookup?, pending, if_true]
        exact begun has
      · cases has
    · split at has
      · rename_i waits
        simp only [lookup?, Session.lookup?, waits]
        exact begun has
      · cases has
    · cases has

/-- What a search goes by. -/
inductive Moment.Basis (moment : Moment) (lookup : Lookup) : Prop
  /-- The settings that the session knows for a document. -/
  | known (uri : Uri) (scope : lookup.scope = some uri)
      (settings : moment.session.settings? uri = some lookup.settings)
  /-- The settings of a document that the editor has just answered with. -/
  | answered (host : Host) (id : OperationId) (task : Task) (answer : Option Json)
      (now : moment.impulse = .input host (.settings id answer))
      (waits : moment.session.operations.get? id = some (.fetching task))
      (scope : lookup.scope = some task.uri)
      (settings : lookup.settings = layered moment.session.general answer)
  /-- General settings that were pushed. -/
  | pushed (host : Host) (pushed : Option Settings)
      (now : moment.impulse = .input host (.start (.configure pushed)))
      (pulls : moment.session.pulls = false) (scope : lookup.scope = none)
      (settings : lookup.settings = pushed.getD moment.session.general)
  /-- General settings that the editor has just answered with. -/
  | pulled (host : Host) (id : OperationId) (general : Settings) (answer : Option Json)
      (now : moment.impulse = .input host (.settings id answer))
      (waits : moment.session.operations.get? id = some (.reconfiguring general))
      (scope : lookup.scope = none) (settings : lookup.settings = layered general answer)

theorem Moment.basis {moment : Moment} {lookup : Lookup} (made : moment.lookup? = some lookup) :
    moment.Basis lookup ∧
      ∃ host input, moment.impulse = .input host input ∧
        lookup.found = host.locate lookup.settings := by
  obtain ⟨session, impulse⟩ := moment
  have known : ∀ {host input uri}, impulse = .input host input →
      session.known? host uri = some lookup →
      Moment.Basis ⟨session, impulse⟩ lookup ∧ ∃ host input, impulse = .input host input ∧
        lookup.found = host.locate lookup.settings := by
    intro host input uri now found
    obtain ⟨settings, same, rfl⟩ := Option.map_eq_some_iff.mp found
    exact ⟨.known uri rfl same, host, input, now, rfl⟩
  cases impulse with
  | support pulls => cases made
  | general settings => cases made
  | input host input =>
    simp only [lookup?, Session.lookup?] at made
    split at made
    · split at made
      · cases made
      · exact known rfl made
    · exact known rfl made
    · split at made
      · cases made
      · rename_i pushed off
        obtain rfl := Option.some.inj made
        exact ⟨.pushed host pushed rfl (Bool.eq_false_iff.mpr off) rfl rfl, host, _, rfl, rfl⟩
    · obtain ⟨inquiry, -, found⟩ := Option.bind_eq_some_iff.mp made
      exact known rfl found
    · split at made
      · rename_i task waits
        obtain rfl := Option.some.inj made
        exact ⟨.answered host _ task _ rfl waits rfl rfl, host, _, rfl, rfl⟩
      · rename_i general waits
        obtain rfl := Option.some.inj made
        exact ⟨.pulled host _ general _ rfl waits rfl rfl, host, _, rfl, rfl⟩
      · cases made
    · split at made
      · exact known rfl made
      · cases made
    · split at made
      · exact known rfl made
      · cases made
    · cases made

end LanguageServer.Session
