import LanguageServer.Json.Value
import LanguageServer.Uri.Parser

/-! What the parameters of a message have to look like. -/

namespace LanguageServer

/-- A description of values. -/
inductive Shape
  | any
  | bool
  | text
  /-- One of some words. -/
  | word (words : List String)
  /-- An integer of 32 bits. -/
  | signed
  /-- An integer of 32 bits that is not negative. -/
  | unsigned
  | uri
  | either (left right : Shape)
  /-- A value that may be `null`, and may be missing where it is a member. -/
  | optional (inner : Shape)
  | list (item : Shape)
  /-- An object with any members. -/
  | object
  /-- An object one of whose members is described. -/
  | member (key : String) (value others : Shape)
  deriving Repr

namespace Shape

/-- Whether a member may be missing. -/
def mayMiss : Shape → Bool
  | .optional _ => true
  | _ => false

def accepts : Shape → Json → Bool
  | .any, _ => true
  | .bool, .bool _ => true
  | .text, .string _ => true
  | .word words, .string value => words.contains value
  | .signed, .number (.integer value) => -Int.pow 2 31 ≤ value && value < Int.pow 2 31
  | .unsigned, .number (.integer value) => 0 ≤ value && value < Int.pow 2 32
  | .uri, .string value => (Uri.parse? value).isSome
  | .either left right, value => left.accepts value || right.accepts value
  | .optional _, .null => true
  | .optional inner, value => inner.accepts value
  | .list item, .array items => items.all item.accepts
  | .object, .object _ => true
  | .member key shape others, value =>
    others.accepts value &&
      match value.member? key with
      | some value => shape.accepts value
      | none => shape.mayMiss
  | _, _ => false

/-- An object of which some members are described. -/
def record (members : List (String × Shape)) : Shape :=
  members.foldr (fun (key, shape) others => .member key shape others) .object

end Shape

end LanguageServer
