import LanguageServer.Proofs.Session.Turn

/-! What is published. Only the end of a call publishes anything, and then only what the call
found. -/

namespace LanguageServer.Session

/-- What was found by a check and shown. -/
structure Publication where
  check : Check
  diagnostics : List Diagnostic

def Effect.publication? : Effect → Option Publication
  | .publish check diagnostics => some ⟨check, diagnostics⟩
  | _ => none

def publications (effects : List Effect) : List Publication :=
  effects.filterMap Effect.publication?

def Moment.published (moment : Moment) : List Publication :=
  publications moment.effects

/-- What a run publishes about a document, in the order in which it is published. -/
def publishedAbout (uri : Uri) (moments : List Moment) : List Publication :=
  (moments.flatMap Moment.published).filter (·.check.uri = uri)

theorem publishedAbout_append (uri : Uri) (earlier later : List Moment) :
    publishedAbout uri (earlier ++ later) =
      publishedAbout uri earlier ++ publishedAbout uri later := by
  simp [publishedAbout]

theorem mem_publishedAbout_append {uri : Uri} {past : List Moment} {moment : Moment}
    {publication : Publication} :
    publication ∈ publishedAbout uri (past ++ [moment]) ↔
      publication ∈ publishedAbout uri past ∨
        publication ∈ moment.published ∧ publication.check.uri = uri := by
  rw [publishedAbout_append, List.mem_append]
  simp [publishedAbout]

/-! ### Parts that publish nothing -/

@[simp]
theorem publications_append (first second : List Effect) :
    publications (first ++ second) = publications first ++ publications second :=
  List.filterMap_append

@[simp]
theorem publications_resolve (host : Host) (session : Session) (settings : Settings) :
    publications (session.resolve host settings).2.2 = [] := by
  unfold resolve
  dsimp only
  split <;> rfl

@[simp]
theorem publications_alarm (session : Session) (detail : String) :
    publications (session.alarm detail).2 = [] := by
  unfold alarm
  split <;> rfl

@[simp]
theorem publications_release (session : Session) (id : OperationId) :
    publications (session.release id).2 = [] := by
  unfold release
  split
  · dsimp only
    split <;> rfl
  · rfl

@[simp]
theorem publications_conclude (session : Session) (id : OperationId) (cause : Cause)
    (outcome : Outcome) : publications (session.conclude id cause outcome).2 = [] := by
  cases cause with
  | change change => exact publications_release (session.finish id) change
  | asked => rfl
  | rest => rfl

@[simp]
theorem publications_reply (session : Session) (id : OperationId) (reply : Option Reply) :
    publications (session.reply id reply).2 = [] := rfl

@[simp]
theorem publications_query (host : Host) (session : Session) (id : OperationId)
    (inquiry : Inquiry) (settings : Settings) :
    publications (session.query host id inquiry settings).2 = [] := by
  unfold query
  dsimp only
  split
  · rw [publications_append, publications_resolve]
    rfl
  · rw [publications_append, publications_resolve, publications_reply]
    rfl

@[simp]
theorem publications_ask (host : Host) (session : Session) (id : OperationId) (uri : Uri)
    (question : Question) : publications (session.ask host id uri question).2 = [] := by
  unfold ask
  split
  · unfold inquire
    split
    · exact publications_query ..
    · rfl
  · rfl

@[simp]
theorem publications_answered (session : Session) (id : OperationId) (inquiry : Inquiry)
    (executable scratch : Path) (ending : Compiler.Ending) :
    publications (session.answered id inquiry executable scratch ending).2 = [] := by
  unfold answered
  dsimp only
  split
  · rfl
  · split
    · rw [publications_append, publications_alarm, publications_reply]
      rfl
    · rfl

@[simp]
theorem publications_fanOut (session : Session) (change : OperationId) (uris : List Uri) :
    publications (session.fanOut change uris).2 = [] := by
  induction uris generalizing session with
  | nil => rfl
  | cons uri rest ih =>
    unfold fanOut
    exact ih _

@[simp]
theorem publications_reconfigured (host : Host) (session : Session) (id : OperationId)
    (settings : Settings) : publications (session.reconfigured host id settings).2 = [] := by
  unfold reconfigured
  dsimp only
  split
  · rfl
  · split
    · rfl
    · exact publications_fanOut ..

@[simp]
theorem publications_check (host : Host) (session : Session) (id : OperationId) (uri : Uri)
    (cause : Cause) (settings : Settings) :
    publications (session.check host id uri cause settings).2 = [] := by
  cases found : host.locate settings with
  | none =>
    rw [check_skipped host session id uri cause settings (.inl found), publications_append,
      publications_resolve, publications_conclude]
    rfl
  | some executable =>
    cases present : session.documents.get? uri with
    | none =>
      rw [check_skipped host session id uri cause settings (.inr present), publications_append,
        publications_resolve, publications_conclude]
      rfl
    | some document =>
      cases made : host.scratch id with
      | none =>
        rw [check_failed host session id uri cause settings executable document found present made]
        exact publications_conclude ..
      | some file =>
        rw [check_called host session id uri cause settings executable file document found present
          made]
        rfl

@[simp]
theorem publications_validate (host : Host) (session : Session) (id : OperationId) (uri : Uri)
    (cause : Cause) : publications (session.validate host id uri cause).2 = [] := by
  unfold validate
  split
  · exact publications_check ..
  · rfl

theorem publications_start (host : Host) (session : Session) (id : OperationId)
    (request : Request) : publications (session.start host id request).2 = [] := by
  cases request with
  | «open» uri text version =>
    unfold start opened
    dsimp only
    split
    · rfl
    · exact publications_validate ..
  | change uri text version =>
    unfold start changed
    dsimp only
    split <;> rfl
  | close uri => rfl
  | shutdown => rfl
  | validate uri => exact publications_validate ..
  | configure settings =>
    unfold start configure
    dsimp only
    split
    · rfl
    · exact publications_reconfigured ..
  | ask uri question => exact publications_ask ..

/-! ### The end of a check -/

theorem checked_fault (session : Session) (id : OperationId) (check : Check)
    (fault : Compiler.Fault) :
    publications (session.checked id check (.error fault)).2 = [] := by
  simp [checked, Compiler.diagnostics]

/-- What a call found is published as long as the check is the latest of its open document. -/
theorem checked_current (session : Session) (id : OperationId) (check : Check)
    (output : Compiler.Output) (current : session.isCurrent check.uri check.revision = true) :
    let shown := (Diagnostic.ofReport output.stderr.toList).take check.limit
    session.checked id check (.ok output) =
      (((session.discard check.scratch).conclude id check.cause (.published shown.length)).1,
        .publish check shown ::
          ((session.discard check.scratch).conclude id check.cause (.published shown.length)).2) := by
  have still : (session.discard check.scratch).isCurrent check.uri check.revision = true := current
  simp only [checked, Compiler.diagnostics, still, if_true]

/-- What a call found is dropped if its document was closed or has drawn another revision. -/
theorem checked_stale (session : Session) (id : OperationId) (check : Check)
    (output : Compiler.Output) (stale : session.isCurrent check.uri check.revision = false) :
    session.checked id check (.ok output) =
      (session.discard check.scratch).conclude id check.cause .stale := by
  have still : (session.discard check.scratch).isCurrent check.uri check.revision = false := stale
  simp only [checked, Compiler.diagnostics, still, Bool.false_eq_true, if_false]

theorem Moment.published_cases (moment : Moment) :
    moment.published = [] ∨ ∃ host id output check,
      moment.impulse = .input host (.ended id (.ok output)) ∧
        moment.session.operations.get? id = some (.checking check) ∧
        moment.session.isCurrent check.uri check.revision = true ∧
        moment.published =
          [⟨check, (Diagnostic.ofReport output.stderr.toList).take check.limit⟩] := by
  obtain ⟨session, impulse⟩ := moment
  cases impulse with
  | support pulls => exact .inl rfl
  | general settings => exact .inl rfl
  | input host input =>
    cases input with
    | start request => exact .inl (publications_start host session.draw.1 _ request)
    | settings id answer =>
      left
      simp only [published, effects, react, step]
      split
      · rename_i task _
        cases task with
        | validate uri cause => exact publications_check ..
        | inquire inquiry => exact publications_query ..
      · exact publications_reconfigured ..
      · rfl
    | ended id ending =>
      simp only [published, effects, react, step]
      split
      · rename_i check waits
        cases ending with
        | error fault => exact .inl (checked_fault session id check fault)
        | ok output =>
          cases current : session.isCurrent check.uri check.revision with
          | true =>
            refine .inr ⟨host, id, output, check, rfl, waits, current, ?_⟩
            rw [checked_current session id check output current]
            exact congrArg (List.cons _) (publications_conclude ..)
          | false =>
            rw [checked_stale session id check output current]
            exact .inl (publications_conclude ..)
      · exact .inl (publications_answered ..)
      · exact .inl rfl
    | rested uri ticket =>
      left
      simp only [published, effects, react, step]
      split
      · rfl
      · exact publications_validate ..
    | turn id =>
      left
      simp only [published, effects, react, step]
      split
      · exact publications_validate ..
      · rfl
      · rfl
    | abandon id => exact .inl rfl

end LanguageServer.Session
