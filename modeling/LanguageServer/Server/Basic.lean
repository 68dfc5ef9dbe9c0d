import LanguageServer.Protocol.Encode
import LanguageServer.Protocol.Method
import LanguageServer.Session.Step

/-! The state of the server, what reaches it and what it brings about. -/

namespace LanguageServer

/-- How far the conversation with the editor has come. -/
inductive Phase
  | uninitialized
  | initialized
  | shutDown
  | exited
  deriving DecidableEq, Repr

namespace Server

/-- What a request is known by. -/
inductive RequestId
  | number (value : Int)
  | text (value : String)
  | null
  deriving DecidableEq, Repr

/-- A message of the editor. One with an id is a request. -/
structure Message where
  method : String
  id : Option RequestId := none
  params : Option Json := none

inductive Refusal
  | notInitialized
  | invalidRequest
  /-- A method that the server does not serve; the name is given if it is unknown. -/
  | methodNotFound (name : Option String)
  | invalidParams
  | canceled
  deriving DecidableEq, Repr

def Refusal.code : Refusal → Int
  | .notInitialized => -32002
  | .invalidRequest => -32600
  | .methodNotFound _ => -32601
  | .invalidParams => -32602
  | .canceled => -32800

def Refusal.message : Refusal → String
  | .notInitialized => "Server not initialized"
  | .invalidRequest => "Invalid request"
  | .methodNotFound _ => "Method not found"
  | .invalidParams => "Invalid params"
  | .canceled => "Canceled"

/-- What becomes of a message. -/
inductive Answer
  /-- It has no answer. -/
  | nothing
  | result (value : Json)
  | refusal (refusal : Refusal)
  /-- The conversation is over. -/
  | exited

/-- The number of a message among all that came. -/
abbrev Ticket := Nat

/-- What to do when the session has done its part of a message. -/
inductive Job
  /-- Nothing more. -/
  | silent (ticket : Ticket)
  /-- Say what became of a document that was opened. -/
  | opened (ticket : Ticket)
  /-- Say what became of a change of the configuration. -/
  | configured (ticket : Ticket)
  /-- Answer a request. -/
  | respond (ticket : Ticket) (id : RequestId)

/-- What the server wants from the editor. -/
inductive Wish
  /-- Settings for an operation of the session. -/
  | settings (id : Session.OperationId) (scope : Option Uri)
  /-- To be told about changes of the configuration, on behalf of a message. -/
  | registration (ticket : Ticket)

inductive Input
  | receive (ticket : Ticket) (message : Message)
  /-- The editor has fulfilled a wish, or has not. -/
  | replied (wish : Wish) (answer : Option Json)
  /-- Something has happened that the session waited for. -/
  | session (input : Session.Input)

inductive Effect
  /-- A message has been dealt with. -/
  | answer (ticket : Ticket) (answer : Answer)
  /-- Tells the editor something. -/
  | notify (method : String) (params : Json)
  /-- Asks the editor for something. -/
  | ask (wish : Wish) (method : String) (params : Json)
  /-- A wish that cannot be sent, so that nobody will fulfil it. -/
  | unsent (wish : Wish)
  /-- Calls the compiler with a file that holds a text. -/
  | call (id : Session.OperationId) (executable : Path) (arguments : List String)
      (contents : String)
  /-- Lets the time begin that a document should be at rest. -/
  | rest (uri : Uri) (ticket : Nat)
  /-- Puts an operation of the session behind all others that could go on. -/
  | queue (id : Session.OperationId)

end Server

structure Server where
  phase : Phase := .uninitialized
  /-- Whether the editor is told what the server does. -/
  debug : Bool := false
  session : Session := {}
  /-- What is to be done after operations of the session. -/
  jobs : Table Session.OperationId Server.Job := ∅

namespace Server

/-- Whether the server may publish and ask. -/
def isConnected (server : Server) : Bool :=
  server.phase == .initialized || server.phase == .shutDown

/-- A notification, unless the conversation is over. -/
def tell (server : Server) (method : String) (params : Json) : List Effect :=
  if server.phase == .exited then [] else [.notify method params]

def log (server : Server) (text : String) : List Effect :=
  server.tell "window/logMessage" (.object [("type", Json.nat 3), ("message", .string text)])

/-- A line in the editor's log about what the server does. -/
def trace (server : Server) (text : String) : List Effect :=
  if server.debug then server.log ("[DEBUG] " ++ text) else []

def request (server : Server) (wish : Wish) (method : String) (params : Json) : List Effect :=
  if server.isConnected then [.ask wish method params] else [.unsent wish]

/-- What the server offers. -/
def capabilities : Json :=
  .object
    [("textDocumentSync", Json.nat 1),
     ("hoverProvider", .bool true),
     ("completionProvider", .object []),
     ("signatureHelpProvider", .object
       [("triggerCharacters", .array [.string "(", .string ","]),
        ("retriggerCharacters", .array [.string ","])]),
     ("definitionProvider", .bool true)]

/-- The answer to the first request. -/
def greeting : Json :=
  .object
    [("capabilities", capabilities),
     ("serverInfo", .object [("name", .string "volta-lsp"), ("version", .string "0.1.0")])]

def settingsParams (scope : Option Uri) : Json :=
  .object [("items", .array [Json.ofMembers
    [("scopeUri", scope.map fun uri => .string uri.text), ("section", some (.string "volta"))]])]

/-- The parameters of a request to be told about changes of the configuration. -/
def registrationParams : Json :=
  .object [("registrations", .array [.object
    [("id", .string "volta-configuration"),
     ("method", .string "workspace/didChangeConfiguration")]])]

def publishParams (check : Session.Check) (diagnostics : List Diagnostic) : Json :=
  .object
    [("uri", .string check.uri.text),
     ("diagnostics", .array (diagnostics.map Diagnostic.toJson)),
     ("version", Json.int check.version)]

def positionText (position : Position) : String :=
  "Position \x7b line: " ++ toString position.line ++ ", character: "
    ++ toString position.character ++ " \x7d"

end Server

end LanguageServer
