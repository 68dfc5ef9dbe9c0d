import LanguageServer.Json.Reader

/-! Skipping of values that nobody asks for.

Only their syntax is checked: nesting has no limit, numbers no range, and units from escapes need
not form characters. -/

namespace LanguageServer.Json

open Reader

/-- What a value that is being skipped stands in. -/
inductive Enclosing
  | list
  | object
  deriving DecidableEq, Repr

/-- Where the skipping stands, with what encloses the place from the inside out. -/
inductive Skip
  /-- A value has to follow. -/
  | value (around : List Enclosing)
  /-- A list or object has just been opened. -/
  | opened (inner : Enclosing) (around : List Enclosing)
  /-- A value has just ended. -/
  | ended (around : List Enclosing)
  deriving DecidableEq, Repr

def skipRestOfString : List Char → Except Fault (Unit × List Char)
  | [] => .error .endInString
  | '"' :: rest => .ok ((), rest)
  | '\\' :: 'u' :: a :: b :: c :: d :: rest =>
    match unit? a b c d with
    | none => .error .invalidEscape
    | some _ => skipRestOfString rest
  | '\\' :: 'u' :: short => .error (shortHexFault short)
  | ['\\'] => .error .endInString
  | '\\' :: letter :: rest =>
    match escape? letter with
    | none => .error .invalidEscape
    | some _ => skipRestOfString rest
  | c :: rest => if c.toNat < 0x20 then .error .controlCharacter else skipRestOfString rest

/-- A string whose opening quote has been read. -/
def skipString : Reader Unit :=
  skipRestOfString

/-- One digit and all that follow it. -/
def skipDigits : Reader Unit := do
  match ← next with
  | some c =>
    if c.isDigit then discard (span Char.isDigit) else fail .invalidNumber
  | none => fail .invalidNumber

def skipExponent : Reader Unit := do
  match ← peek with
  | some 'e' | some 'E' =>
    advance
    discard exponentSign
    skipDigits
  | _ => pure ()

def skipFraction : Reader Unit := do
  match ← peek with
  | some '.' =>
    advance
    skipDigits
    skipExponent
  | _ => skipExponent

/-- The digits of a number before its point. -/
def skipWhole : Reader Unit := do
  match ← peek with
  | some '0' =>
    advance
    match ← peek with
    | some c => if c.isDigit then fail .invalidNumber
    | none => pure ()
  | _ => skipDigits

def skipNumber : Reader Unit := do
  skipWhole
  skipFraction

def skipKey : Reader Unit := do
  match ← peekToken with
  | none => fail .endInObject
  | some '"' =>
    advance
    skipString
    colon
  | some _ => fail .keyNotString

/-- The start of a value: all of it, or the bracket that opens it. -/
def skipStart (around : List Enclosing) : Reader Skip := do
  match ← peekToken with
  | none => fail .endInValue
  | some 'n' => advance; restOfNull; return .ended around
  | some 't' => advance; restOfTrue; return .ended around
  | some 'f' => advance; restOfFalse; return .ended around
  | some '"' => advance; skipString; return .ended around
  | some '[' => advance; return .opened .list around
  | some '{' => advance; return .opened .object around
  | some c =>
    if c = '-' then
      advance
      skipNumber
      return .ended around
    else if c.isDigit then
      skipNumber
      return .ended around
    else
      fail .expectedValue

/-- What comes after a separator or an opening bracket: the key of a member, or an item. -/
def skipEntry (inner : Enclosing) (around : List Enclosing) : Reader Skip := do
  match inner with
  | .list => skipStart (.list :: around)
  | .object =>
    skipKey
    return .value (.object :: around)

def Enclosing.closing : Enclosing → Char
  | .list => ']'
  | .object => '\x7d'

/-- The fault of a text that ends inside. -/
def Enclosing.endFault : Enclosing → Fault
  | .list => .endInList
  | .object => .endInObject

/-- The fault of neither a separator nor an end after an entry. -/
def Enclosing.separatorFault : Enclosing → Fault
  | .list => .expectedCommaOrBracket
  | .object => .expectedCommaOrBrace

/-- One step of the skipping; `none` when the value has ended. -/
def Skip.step : Skip → Reader (Option Skip)
  | .value around => some <$> skipStart around
  | .opened inner around => do
    match ← peekToken with
    | none => fail inner.endFault
    | some c =>
      if c = inner.closing then
        advance
        return some (.ended around)
      else
        some <$> skipEntry inner around
  | .ended [] => return none
  | .ended (inner :: around) => do
    match ← peekToken with
    | none => fail inner.endFault
    | some c =>
      if c = ',' then
        advance
        some <$> skipEntry inner around
      else if c = inner.closing then
        advance
        return some (.ended around)
      else
        fail inner.separatorFault

def Reader.skip : Reader Unit :=
  discard (iterate Skip.step (.value []))

end LanguageServer.Json
