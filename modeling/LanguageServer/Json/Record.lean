import LanguageServer.Json.Skip

/-! Reading of records.

A record is an object with known keys, in any order and among unknown ones, or a list of the values
of its fields in their order. -/

namespace LanguageServer.Json

namespace Reader

/-- The text `null`, or a value. -/
def optional (reader : Reader α) : Reader (Option α) := do
  match ← peekToken with
  | some 'n' => advance; restOfNull; return none
  | _ => some <$> reader

def string : Reader String := do
  match ← peekToken with
  | none => fail .endInValue
  | some '"' => advance; stringTail
  | some _ => unexpected "a string"

def boolean : Reader Bool := do
  match ← peekToken with
  | none => fail .endInValue
  | some 't' => advance; restOfTrue; return true
  | some 'f' => advance; restOfFalse; return false
  | some _ => unexpected "a boolean"

def list (item : Reader α) : Reader (List α) := do
  match ← peekToken with
  | none => fail .endInValue
  | some '[' => advance; items item
  | some _ => unexpected "a sequence"

/-- A natural number of 32 bits. -/
def word : Reader Nat := do
  match ← peekToken with
  | none => fail .endInValue
  | some c =>
    if c = '-' ∨ c.isDigit then
      if c = '-' then advance
      match ← number (c == '-') with
      | .integer value =>
        if 0 ≤ value ∧ value < Int.pow 2 32 then return value.toNat
        else fail (.wrongValue (.integer value) "u32")
      | .float bits => fail (.wrongType (.float bits) "u32")
    else
      unexpected "u32"

end Reader

open Reader

/-- A field of a record that is filled step by step. -/
structure Field (σ : Type) where
  key : String
  /-- Whether the field has its value. -/
  filled : σ → Bool
  /-- Reads the value of the field. -/
  read : Reader (σ → σ)
  /-- Whether a list may end before the field. -/
  omissible : Bool

/-- How a record is read: which fields it has, in order, and what it is made of once they are
filled. -/
structure Record (σ α : Type) where
  name : String
  empty : σ
  fields : List (Field σ)
  /-- Makes the record, unless a field that has to be there is missing. -/
  build : σ → Except Fault α

def Record.lengthText (record : Record σ α) : String :=
  let count := record.fields.length
  "struct " ++ record.name ++ " with " ++ toString count ++
    (if count = 1 then " element" else " elements")

/-- Reads the values of fields from a list, of which `read` have been read. -/
def Record.readItems (record : Record σ α) : List (Field σ) → Nat → Bool → σ → Reader σ
  | [], _, _, state => return state
  | field :: fields, read, first, state => do
    if ← nextItem first then
      let update ← field.read
      record.readItems fields (read + 1) false (update state)
    else if field.omissible then
      record.readItems fields (read + 1) first state
    else
      fail (.wrongLength read record.lengthText)

/-- Reads the value of a member, if its key is that of a field, and skips it otherwise. -/
def Record.readMember (record : Record σ α) (key : String) (state : σ) : Reader σ := do
  match record.fields.find? (·.key == key) with
  | none =>
    colon
    skip
    return state
  | some field =>
    if field.filled state then
      fail (.duplicateField field.key)
    else
      colon
      let update ← field.read
      return update state

/-- Reads the members of an object up to its end, which stays. -/
def Record.readMembers (record : Record σ α) : Reader σ := do
  let (state, _) ← iterate (fun ((state, first) : σ × Bool) => do
    if ← nextKey first then
      let key ← stringTail
      return some (← record.readMember key state, false)
    else
      return none) (record.empty, true)
  return state

def Record.finish (record : Record σ α) (state : σ) : Reader α :=
  match record.build state with
  | .ok made => return made
  | .error fault => fail fault

def Record.read (record : Record σ α) : Reader α := do
  match ← peekToken with
  | none => fail .endInValue
  | some '[' =>
    advance
    let state ← record.readItems record.fields 0 true record.empty
    let made ← record.finish state
    endOfList
    return made
  | some '{' =>
    advance
    let state ← record.readMembers
    let made ← record.finish state
    endOfObject
    return made
  | some _ => unexpected ("struct " ++ record.name)

/-- The value of a field that has to be there. -/
def required (key : String) (value : Option α) : Except Fault α :=
  match value with
  | some value => .ok value
  | none => .error (.missingField key)

end LanguageServer.Json
