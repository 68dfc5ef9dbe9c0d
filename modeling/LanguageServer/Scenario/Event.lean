import LanguageServer.Session.Basic

/-! What can be seen of a session from outside, and when. -/

namespace LanguageServer.Scenario

open Session

/-- Something that can be seen. -/
inductive Event
  | call (executable : Path) (arguments : List String) (contents : String)
  | publish (uri : Uri) (diagnostics : List Diagnostic) (version : Int)
  | message (gravity : Gravity) (text : String)
  | fetch (scope : Option Uri)
  /-- A message to the editor, which may be a request. -/
  | send (method : String) (params : Json) (request : Bool)
  /-- An operation has ended that nobody waited for. -/
  | done (step : Nat) (result : Json)

def Event.kind : Event → String
  | .call .. => "call"
  | .publish .. => "publish"
  | .message .. => "message"
  | .fetch _ => "fetch"
  | .send .. => "send"
  | .done .. => "done"

/-- The text of a value that is one. -/
def textOf? : Json → Option String
  | .string text => some text
  | _ => none

/-- The document that a message to the editor is about. -/
def subject (params : Json) : String :=
  let uri := (params.member? "uri").bind textOf?
  let scope := match params.member? "items" with
    | some (.array (item :: _)) => (item.member? "scopeUri").bind textOf?
    | _ => none
  (uri.or scope).getD ""

/-- What tells events of a kind apart. -/
def Event.key : Event → String
  | .call _ _ contents => contents
  | .publish uri _ _ => uri.text
  | .message _ text => text
  | .fetch scope => (scope.map (·.text)).getD ""
  | .send _ params _ => subject params
  | .done step _ => toString step

/-- Whether an event can go before another: it is earlier, or of the same time and of an earlier
kind. -/
def byKind (left right : Nat × Event) : Bool :=
  left.1 < right.1 || left.1 == right.1 && !(right.2.kind < left.2.kind)

/-- Whether an event can go before another when events of the same kind have no order of their
own. -/
def byKey (left right : Nat × Event) : Bool :=
  left.1 < right.1 || left.1 == right.1 &&
    (left.2.kind < right.2.kind || left.2.kind == right.2.kind && !(right.2.key < left.2.key))

end LanguageServer.Scenario
