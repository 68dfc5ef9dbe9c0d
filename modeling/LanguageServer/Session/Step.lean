import LanguageServer.Session.Inquiry
import LanguageServer.Session.Validation

/-! How a session reacts to an input. -/

namespace LanguageServer.Session

/-- Takes a document into the session. Unless it was open before, it is validated at once. -/
def opened (host : Host) (session : Session) (id : OperationId) (uri : Uri) (document : Document) :
    Session × List Effect :=
  let known := session.validated.contains uri
  let session := { session with documents := session.documents.put uri document }
  if known then (session, [.done id (.outcome none)])
  else ({ session with validated := uri :: session.validated }).validate host id uri .asked

/-- Gives an open document another text, which is validated once the document has been at rest. -/
def changed (session : Session) (id : OperationId) (uri : Uri) (text : String) (version : Int) :
    Session × List Effect :=
  match session.documents.get? uri with
  | none => (session, [.done id .none])
  | some document =>
    let (timers, ticket) := session.timers.schedule uri
    ({ session with
       documents := session.documents.put uri (document.update text version)
       timers := timers }, [.rest uri ticket, .done id .none])

def closed (session : Session) (uri : Uri) : Session :=
  { session with
    timers := (session.timers.cancel uri).1
    documents := session.documents.erase uri
    settings := session.settings.erase uri
    validated := session.validated.filter (· ≠ uri)
    latest := session.latest.erase uri }

/-- Starts a validation of every document of a list on behalf of a change of the configuration. -/
def fanOut (session : Session) (change : OperationId) : List Uri → Session × List Effect
  | [] => (session, [])
  | uri :: rest =>
    let (session, id) := session.draw
    let (session, effects) := (session.suspend id (.ready uri (.change change))).fanOut change rest
    (session, .queue id :: effects)

/-- Ends a change of the configuration if the settings lead to the same compiler as before, and
validates all open documents if not. -/
def reconfigured (host : Host) (session : Session) (id : OperationId) (settings : Settings) :
    Session × List Effect :=
  let found := host.locate settings
  if session.compiler = found then (session.finish id, [.done id (.count 0)])
  else
    let session := { session with compiler := found }
    let uris := session.documents.keys
    if uris.isEmpty then (session.finish id, [.done id (.count 0)])
    else (session.suspend id (.revalidating uris.length uris.length)).fanOut id uris

def configure (host : Host) (session : Session) (id : OperationId) (settings : Option Settings) :
    Session × List Effect :=
  let session := { session with general := settings.getD session.general, settings := ∅ }
  if session.pulls then
    (session.suspend id (.reconfiguring session.general), [.fetch id none])
  else
    session.reconfigured host id session.general

def start (host : Host) (session : Session) (id : OperationId) : Request → Session × List Effect
  | .open uri text version => session.opened host id uri ⟨text, version⟩
  | .change uri text version => session.changed id uri text version
  | .close uri => (session.closed uri, [.done id .none])
  | .shutdown => ({ session with timers := session.timers.cancelAll }, [.done id .none])
  | .validate uri => session.validate host id uri .asked
  | .configure settings => session.configure host id settings
  | .ask uri question => session.ask host id uri question

/-- Goes on with what needed the settings of a document. -/
def informed (host : Host) (session : Session) (id : OperationId) (task : Task)
    (answer : Option Json) : Session × List Effect :=
  let settings := layered session.general answer
  let session := session.keep task.uri settings
  match task with
  | .validate uri cause => session.check host id uri cause settings
  | .inquire inquiry => session.query host id inquiry settings

/-- The session after an input, and what it brings about. An input for which no operation waits
changes nothing. -/
def step (host : Host) (session : Session) : Input → Session × List Effect
  | .start request =>
    let (session, id) := session.draw
    session.start host id request
  | .settings id answer =>
    match session.operations.get? id with
    | some (.fetching task) => session.informed host id task answer
    | some (.reconfiguring general) => session.reconfigured host id (layered general answer)
    | _ => (session, [])
  | .ended id ending =>
    match session.operations.get? id with
    | some (.checking check) => session.checked id check ending
    | some (.asking inquiry executable scratch) =>
      session.answered id inquiry executable scratch ending
    | _ => (session, [])
  | .rested uri ticket =>
    match session.timers.claim? uri ticket with
    | none => (session, [])
    | some timers =>
      let (session, id) := { session with timers := timers }.draw
      session.validate host id uri .rest
  | .turn id =>
    match session.operations.get? id with
    | some (.ready uri cause) => session.validate host id uri cause
    | some (.revalidating 0 count) => (session.finish id, [.done id (.count count)])
    | _ => (session, [])
  | .abandon id =>
    let session := match session.operations.get? id with
      | some (.checking check) => session.discard check.scratch
      | some (.asking _ _ scratch) => session.discard scratch
      | _ => session
    (session.finish id, [])

end LanguageServer.Session
