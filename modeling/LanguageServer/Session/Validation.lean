import LanguageServer.Session.Basic

/-! Validations: a document's text is checked by the compiler and what it found is published.

A validation that gets as far as the compiler draws a revision. What it found is published only if
the document is still open and has drawn no other revision since. -/

namespace LanguageServer.Session

/-- One of the validations that a change of the configuration waits for has ended. -/
def release (session : Session) (id : OperationId) : Session × List Effect :=
  match session.operations.get? id with
  | some (.revalidating waiting count) =>
    (session.suspend id (.revalidating (waiting - 1) count), if waiting = 1 then [.queue id] else [])
  | _ => (session, [])

/-- Ends a validation. Whatever its cause, it comes to an outcome. -/
def conclude (session : Session) (id : OperationId) (cause : Cause) (outcome : Outcome) :
    Session × List Effect :=
  let session := session.finish id
  let (session, effects) := match cause with
    | .change change => session.release change
    | _ => (session, [])
  (session, .done id (.outcome (some outcome)) :: effects)

/-- Makes a check the latest of its document. -/
def drawRevision (session : Session) (uri : Uri) : Session × Nat :=
  let revision := session.revision + 1
  ({ session with revision := revision, latest := session.latest.put uri revision }, revision)

/-- Whether a revision is the latest of a document that is open. -/
def isCurrent (session : Session) (uri : Uri) (revision : Nat) : Bool :=
  session.isOpen uri && session.latest.get? uri == some revision

/-- A validation whose settings are known: it looks for the compiler and calls it. -/
def check (host : Host) (session : Session) (id : OperationId) (uri : Uri) (cause : Cause)
    (settings : Settings) : Session × List Effect :=
  let (session, found, notices) := session.resolve host settings
  match found, session.documents.get? uri with
  | some executable, some document =>
    let (session, revision) := session.drawRevision uri
    match host.scratch id with
    | none =>
      let (session, effects) := session.conclude id cause .failed
      (session, notices ++ effects)
    | some file =>
      let stage := Stage.checking
        ⟨uri, cause, revision, document.version, settings.maxDiagnostics, executable, file⟩
      ((session.store file document.text).suspend id stage,
        notices ++ [.call id executable (Compiler.checkArguments file) document.text])
  | _, _ =>
    let (session, effects) := session.conclude id cause .skipped
    (session, notices ++ effects)

def validate (host : Host) (session : Session) (id : OperationId) (uri : Uri) (cause : Cause) :
    Session × List Effect :=
  match session.settings? uri with
  | some settings => session.check host id uri cause settings
  | none => (session.suspend id (.fetching (.validate uri cause)), [.fetch id (some uri)])

/-- Ends a check whose call has ended. -/
def checked (session : Session) (id : OperationId) (check : Check) (ending : Compiler.Ending) :
    Session × List Effect :=
  let session := session.discard check.scratch
  match Compiler.diagnostics ending with
  | .error fault =>
    let (session, notices) := session.alarm (fault.message check.executable)
    let (session, effects) := session.conclude id check.cause .failed
    (session, notices ++ effects)
  | .ok found =>
    if session.isCurrent check.uri check.revision then
      let shown := found.take check.limit
      let (session, effects) := session.conclude id check.cause (.published shown.length)
      (session, .publish check shown :: effects)
    else
      session.conclude id check.cause .stale

end LanguageServer.Session
