import LanguageServer.Json.Reader

/-! Whole JSON texts as values. -/

namespace LanguageServer.Json

namespace Reader

/-- The members of an object whose opening brace has been read, and its end. Of members with the
same key the last one counts. -/
def members (value : Reader Json) : Reader (List (String × Json)) := do
  let (found, _) ← iterate (fun ((found, first) : List (String × Json) × Bool) => do
    if ← nextKey first then
      let key ← stringTail
      colon
      let item ← value
      return some (put key item found, false)
    else
      return none) ([], true)
  endOfObject
  return found

/-- A value with at most `depth` lists and objects around its innermost part. -/
def value : Nat → Reader Json
  | 0 => fail .nestedTooDeep
  | depth + 1 => do
    match ← peekToken with
    | none => fail .endInValue
    | some 'n' => advance; restOfNull; return .null
    | some 't' => advance; restOfTrue; return .bool true
    | some 'f' => advance; restOfFalse; return .bool false
    | some '"' => advance; return .string (← stringTail)
    | some '[' =>
      advance
      if depth = 0 then fail .nestedTooDeep
      return .array (← items (value depth))
    | some '{' =>
      advance
      if depth = 0 then fail .nestedTooDeep
      return .object (← members (value depth))
    | some c =>
      if c = '-' then
        advance
        return .number (← number true)
      else if c.isDigit then
        return .number (← number false)
      else
        fail .expectedValue

end Reader

def maxDepth : Nat :=
  128

def ofText (text : String) : Except Fault Json :=
  (Reader.value maxDepth).all text.toList

end LanguageServer.Json
