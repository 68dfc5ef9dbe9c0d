import LanguageServer.Server.Basic

/-! Between the session and the editor. -/

namespace LanguageServer.Server

/-- Ends a message whose part in the session is done. -/
def complete (server : Server) : Job → Session.Result → List Effect
  | .silent ticket, _ => [.answer ticket .nothing]
  | .opened ticket, .outcome (some (.published count)) =>
    server.trace ("Published " ++ toString count ++ " diagnostic(s)") ++ [.answer ticket .nothing]
  | .opened ticket, _ => [.answer ticket .nothing]
  | .configured ticket, .count documents =>
    server.trace ("Revalidated " ++ toString documents ++ " document(s)")
      ++ [.answer ticket .nothing]
  | .configured ticket, _ => [.answer ticket .nothing]
  | .respond ticket _, .reply (some reply) => [.answer ticket (.result reply.toJson)]
  | .respond ticket _, _ => [.answer ticket (.result .null)]

/-- What an effect of the session is for the server. -/
def relay (server : Server) : Session.Effect → Server × List Effect
  | .fetch id scope =>
    (server, server.request (.settings id scope) "workspace/configuration" (settingsParams scope))
  | .call id executable arguments contents => (server, [.call id executable arguments contents])
  | .publish check diagnostics =>
    (server, if server.isConnected then
      server.tell "textDocument/publishDiagnostics" (publishParams check diagnostics) else [])
  | .message gravity text =>
    (server, server.tell "window/showMessage"
      (.object [("type", Json.nat gravity.code), ("message", .string text)]))
  | .rest uri ticket => (server, [.rest uri ticket])
  | .queue id => (server, [.queue id])
  | .done id result =>
    match server.jobs.get? id with
    | some job => ({ server with jobs := server.jobs.erase id }, server.complete job result)
    | none => (server, [])

def relayAll (server : Server) : List Session.Effect → Server × List Effect
  | [] => (server, [])
  | effect :: rest =>
    let (server, effects) := server.relay effect
    let (server, more) := server.relayAll rest
    (server, effects ++ more)

/-- Gives the session an input. -/
def advance (host : Session.Host) (server : Server) (input : Session.Input) :
    Server × List Effect :=
  let (session, effects) := server.session.step host input
  { server with session := session }.relayAll effects

/-- Gives the session something to do, and notes what to do after it. -/
def start (host : Session.Host) (server : Server) (job : Job) (request : Session.Request) :
    Server × List Effect :=
  { server with jobs := server.jobs.put server.session.nextOperation job }.advance host
    (.start request)

end LanguageServer.Server
