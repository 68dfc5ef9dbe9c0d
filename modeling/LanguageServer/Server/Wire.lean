import LanguageServer.Json.Document
import LanguageServer.Server.Basic

/-! Messages as they come from the editor and go to it. -/

namespace LanguageServer.Server

/-- A text that the editor sent. -/
inductive Incoming
  | message (message : Message)
  /-- An answer to a request of the server; one that is an error has no result. -/
  | reply (id : RequestId) (result : Option Json)

/-- Why a text cannot be understood. -/
inductive Garble
  /-- It is no JSON text. -/
  | malformed
  /-- It is no message. -/
  | invalid
  deriving DecidableEq, Repr

def Garble.code : Garble → Int
  | .malformed => -32700
  | .invalid => -32600

def Garble.message : Garble → String
  | .malformed => "Parse error"
  | .invalid => "Invalid request"

def RequestId.toJson : RequestId → Json
  | .number value => Json.int value
  | .text value => .string value
  | .null => .null

/-- What a request is known by: a number of 64 bits with a sign, a text or nothing. -/
def RequestId.ofJson? : Json → Option RequestId
  | .number (.integer value) => if value < Int.pow 2 63 then some (.number value) else none
  | .string value => some (.text value)
  | .null => some .null
  | _ => none

/-- Whether a value has the version that all messages have. -/
def hasVersion (value : Json) : Bool :=
  match value.member? "jsonrpc" with
  | some (.string version) => version == "2.0"
  | _ => false

def isError (value : Json) : Bool :=
  match value.member? "code", value.member? "message" with
  | some (.number (.integer _)), some (.string _) => true
  | _, _ => false

/-- An answer to a request of the server. It has an id, and a result or an error. -/
def reply? (value : Json) : Option Incoming := do
  let id ← (← value.member? "id") |> RequestId.ofJson?
  match value.member? "result", value.member? "error" with
  | some result, _ => return .reply id (some result)
  | none, some error => if isError error then return .reply id none else none
  | none, none => none

/-- A message of the editor. Without a method it has an empty one. -/
def message? (value : Json) : Option Incoming := do
  let method ← match value.member? "method" with
    | none => some ""
    | some (.string method) => some method
    | some _ => none
  let id ← match value.member? "id" with
    | none => some none
    | some id => (RequestId.ofJson? id).map some
  return .message { method := method, id := id, params := value.member? "params" }

/-- What a text of the editor means. -/
def Incoming.ofText (text : String) : Except Garble Incoming :=
  match Json.ofText text with
  | .error _ => .error .malformed
  | .ok value =>
    if hasVersion value then
      match (reply? value).or (message? value) with
      | some incoming => .ok incoming
      | none => .error .invalid
    else
      .error .invalid

inductive Outgoing
  | result (id : RequestId) (value : Json)
  | refusal (id : RequestId) (refusal : Refusal)
  | garble (cause : Garble)
  | notification (method : String) (params : Json)
  | request (id : Nat) (method : String) (params : Json)

def errorJson (code : Int) (message : String) (data : Option Json) : Json :=
  Json.ofMembers
    [("code", some (Json.int code)), ("message", some (.string message)), ("data", data)]

def Outgoing.toJson (outgoing : Outgoing) : Json :=
  .object (("jsonrpc", .string "2.0") ::
    match outgoing with
    | .result id value => [("result", value), ("id", id.toJson)]
    | .refusal id reason =>
      let data := match reason with
        | .methodNotFound name => name.map Json.string
        | _ => none
      [("error", errorJson reason.code reason.message data), ("id", id.toJson)]
    | .garble cause => [("error", errorJson cause.code cause.message none), ("id", .null)]
    | .notification method params => [("method", .string method), ("params", params)]
    | .request id method params =>
      [("method", .string method), ("params", params), ("id", Json.nat id)])

/-- The request that a message to the editor answers. -/
def Outgoing.answers? : Outgoing → Option RequestId
  | .result id _ => some id
  | .refusal id _ => some id
  | .garble _ => some .null
  | .notification .. => none
  | .request .. => none

def Outgoing.method? : Outgoing → Option String
  | .notification method _ => some method
  | .request _ method _ => some method
  | _ => none

end LanguageServer.Server
