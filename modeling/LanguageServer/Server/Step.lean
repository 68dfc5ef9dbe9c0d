import LanguageServer.Server.Relay

/-! How the server reacts to an input. -/

namespace LanguageServer.Server

/-! ### Messages that were accepted -/

def welcome (server : Server) (ticket : Ticket) (params : Json) : Server × List Effect :=
  let effects := server.trace "Initializing Volta LSP server"
  let session := { server.session with
    pulls := Protocol.canBeAsked params
    general := (Protocol.initialSettings? params).getD server.session.general }
  ({ server with phase := .initialized, session := session },
    effects ++ [.answer ticket (.result greeting)])

/-- The editor is ready too. -/
def initialized (server : Server) (ticket : Ticket) : Server × List Effect :=
  if server.session.pulls then
    (server, server.request (.registration ticket) "client/registerCapability" registrationParams)
  else
    (server, server.log "Volta LSP server initialized" ++ [.answer ticket .nothing])

/-- Says what the server is about to do and then does it. -/
def traced (text : String) (server : Server) (next : Server → Server × List Effect) :
    Server × List Effect :=
  let (after, effects) := next server
  (after, server.trace text ++ effects)

/-- A notification whose parameters are as they should be. -/
def heed (host : Session.Host) (server : Server) (ticket : Ticket) (method : Method)
    (params : Json) : Server × List Effect :=
  let ignored := (server, [Effect.answer ticket .nothing])
  match method, Protocol.uri? params with
  | .initialized, _ => server.initialized ticket
  | .didOpen, some uri =>
    let text := (Protocol.text? params ["textDocument", "text"]).getD ""
    let version := (Protocol.integer? params ["textDocument", "version"]).getD 0
    traced ("Document opened: " ++ uri.text) server fun server =>
      server.start host (.opened ticket) (.open uri text version)
  | .didChange, some uri =>
    let version := (Protocol.integer? params ["textDocument", "version"]).getD 0
    traced ("Document changed: " ++ uri.text) server fun server =>
      match Protocol.lastChange? params with
      | some text => server.start host (.silent ticket) (.change uri text version)
      | none => (server, [.answer ticket .nothing])
  | .didClose, some uri =>
    traced ("Document closed: " ++ uri.text) server fun server =>
      server.start host (.silent ticket) (.close uri)
  | .didChangeConfiguration, _ =>
    traced "Configuration changed" server fun server =>
      let pushed :=
        if server.session.pulls then none
        else (params.member? "settings").bind Settings.ofChange?
      server.start host (.configured ticket) (.configure pushed)
  | _, _ => ignored

/-- The keywords that fit at a position of an open document. -/
def complement (server : Server) (uri : Uri) (position : Position) : Json :=
  match server.session.documents.get? uri with
  | some document => .array ((document.completions position).map Keyword.toJson)
  | none => .null

/-- A request whose parameters are as they should be. -/
def serve (host : Session.Host) (server : Server) (ticket : Ticket) (id : RequestId)
    (method : Method) (params : Json) : Server × List Effect :=
  let refused := (server, [Effect.answer ticket (.refusal (.methodNotFound none))])
  let about (what : String) (position : Position) : String := what ++ " at " ++ positionText position
  match method, Protocol.uri? params, Protocol.position? params with
  | .hover, some uri, some position =>
    traced (about "Hover request" position) server fun server =>
      server.start host (.respond ticket id) (.ask uri (.hover position))
  | .definition, some uri, some position =>
    traced (about "Go to definition" position) server fun server =>
      server.start host (.respond ticket id) (.ask uri (.definition position))
  | .signatureHelp, some uri, some position =>
    traced (about "Signature help request" position) server fun server =>
      server.start host (.respond ticket id) (.ask uri (.signature position))
  | .completion, some uri, some position =>
    traced (about "Completion request" position) server fun server =>
      (server, [.answer ticket (.result (server.complement uri position))])
  | _, _, _ => refused

/-! ### Pending requests -/

/-- The requests that wait for the session. -/
def pending (server : Server) : List (Session.OperationId × Ticket × RequestId) :=
  server.jobs.entries.filterMap fun (operation, job) =>
    match job with
    | .respond ticket id => some (operation, ticket, id)
    | _ => none

def cancel (host : Session.Host) (server : Server) (operation : Session.OperationId)
    (ticket : Ticket) : Server × List Effect :=
  let server := { server with jobs := server.jobs.erase operation }
  let (server, effects) := server.advance host (.abandon operation)
  (server, effects ++ [.answer ticket (.refusal .canceled)])

def cancelAll (host : Session.Host) (server : Server) :
    List (Session.OperationId × Ticket × RequestId) → Server × List Effect
  | [] => (server, [])
  | (operation, ticket, _) :: rest =>
    let (server, effects) := server.cancel host operation ticket
    let (server, more) := server.cancelAll host rest
    (server, effects ++ more)

/-! ### Messages -/

/-- The id that a request for cancellation names. -/
def canceledId? (params : Json) : Option RequestId :=
  match params.member? "id" with
  | some (.number (.integer value)) => some (.number value)
  | some (.string text) => some (.text text)
  | _ => none

/-- The answer to a message that is refused. Notifications are not answered. -/
def refuse (message : Message) (refusal : Refusal) : Answer :=
  if message.id.isSome then .refusal refusal else .nothing

/-- Parameters that fit a shape, if they do. A method that takes none must be given none. -/
def fit? (shape : Option Shape) (params : Option Json) : Option Json :=
  match shape, params with
  | none, none => some .null
  | some shape, some params => if shape.accepts params then some params else none
  | _, _ => none

/-- A message of a method that is known, at a time when it can be served. -/
def accept (host : Session.Host) (server : Server) (ticket : Ticket) (message : Message)
    (method : Method) (params : Json) : Server × List Effect :=
  match method, message.id with
  | .greeting, some _ => server.welcome ticket params
  | .shutdown, some id =>
    traced "Shutting down server" server fun server =>
      server.start host (.respond ticket id) .shutdown
  | .cancel, _ =>
    let named := (canceledId? params).bind fun id => server.pending.find? (·.2.2 == id)
    let (server, effects) := server.cancelAll host named.toList
    (server, effects ++ [.answer ticket .nothing])
  | _, some id => server.serve host ticket id method params
  | _, none => server.heed host ticket method params

/-- A message whose method is known: it needs the right time, an id if and only if it is a request,
an id that no pending request has, and the right parameters. -/
def examine (host : Session.Host) (server : Server) (ticket : Ticket) (message : Message)
    (method : Method) (shape : Option Shape) : Server × List Effect :=
  let answer (answer : Answer) : Server × List Effect := (server, [.answer ticket answer])
  let proceed (server : Server) : Server × List Effect :=
    if message.id.any fun id => server.pending.any (·.2.2 == id) then
      (server, [.answer ticket (.refusal .invalidRequest)])
    else if message.id.isSome != method.isRequest then (server, [.answer ticket .nothing])
    else
      match fit? shape message.params with
      | some params => server.accept host ticket message method params
      | none => (server, [.answer ticket (refuse message .invalidParams)])
  match method, server.phase with
  | .cancel, _ => proceed server
  | .greeting, .uninitialized => proceed server
  | .greeting, _ => answer (refuse message .invalidRequest)
  | .shutdown, .initialized => proceed { server with phase := .shutDown }
  | _, .initialized => proceed server
  | _, .uninitialized => answer (refuse message .notInitialized)
  | _, _ => answer (refuse message .invalidRequest)

/-- A message of the editor. After the end of the conversation there is none. -/
def receive (host : Session.Host) (server : Server) (ticket : Ticket) (message : Message) :
    Server × List Effect :=
  if server.phase == .exited then (server, [.answer ticket .exited])
  else
    match Method.ofName? message.method with
    | some (.exit, _) =>
      let (server, effects) := { server with phase := .exited }.cancelAll host server.pending
      (server, effects ++ [.answer ticket .nothing])
    | some (method, shape) => server.examine host ticket message method shape
    | none =>
      let ignored := message.method.startsWith "$/"
      let refusal := refuse message (.methodNotFound (some message.method))
      (server, [.answer ticket (if ignored then .nothing else refusal)])

/-- The server after an input, and what it brings about. -/
def step (host : Session.Host) (server : Server) : Input → Server × List Effect
  | .receive ticket message => server.receive host ticket message
  | .replied (.settings id _) answer => server.advance host (.settings id answer)
  | .replied (.registration ticket) _ =>
    (server, server.log "Volta LSP server initialized" ++ [.answer ticket .nothing])
  | .session input => server.advance host input

end LanguageServer.Server
