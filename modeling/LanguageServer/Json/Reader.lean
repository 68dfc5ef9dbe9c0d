import LanguageServer.Json.Fault
import LanguageServer.Json.Value

/-! Reading of JSON texts from the front: blanks, words, strings and numbers.

A reader takes a text, and gives a value and the rest of the text or the first fault it meets. -/

namespace LanguageServer.Json

/-- A reader of a value at the front of a text. -/
abbrev Reader := StateT (List Char) (Except Fault)

namespace Reader

def fail (fault : Fault) : Reader α :=
  fun _ => .error fault

/-- The next character, which stays. -/
def peek : Reader (Option Char) :=
  fun text => .ok (text.head?, text)

/-- The next character, which is consumed. -/
def next : Reader (Option Char) :=
  fun text => .ok (text.head?, text.tail)

def advance : Reader Unit :=
  fun text => .ok ((), text.tail)

/-- Consumes the longest run of characters of a kind. -/
def span (kind : Char → Bool) : Reader (List Char) :=
  fun text => .ok (text.takeWhile kind, text.dropWhile kind)

def iterateFor (step : σ → Reader (Option σ)) : Nat → σ → Reader σ
  | 0, state => fun text => .ok (state, text)
  | count + 1, state => fun text =>
    match step state text with
    | .error fault => .error fault
    | .ok (none, rest) => .ok (state, rest)
    | .ok (some state, rest) => iterateFor step count state rest

/-- Repeats a reader until it finds no more. Every time it has to read something, so that it is not
repeated more often than there are characters. -/
def iterate (step : σ → Reader (Option σ)) (state : σ) : Reader σ := fun text =>
  iterateFor step (text.length + 1) state text

/-- The characters that may stand between tokens. -/
def isSpace (c : Char) : Bool :=
  c == ' ' || c == '\t' || c == '\n' || c == '\r'

def space : Reader Unit :=
  fun text => .ok ((), text.dropWhile isSpace)

/-- The first character of the next token, which stays. -/
def peekToken : Reader (Option Char) := do
  space
  peek

/-- The remaining letters of a word whose first letter has been read. -/
def restOfWord : List Char → Reader Unit
  | [] => pure ()
  | letter :: letters => do
    match ← next with
    | none => fail .endInValue
    | some c => if c = letter then restOfWord letters else fail .expectedIdentifier

def restOfNull : Reader Unit :=
  restOfWord ['u', 'l', 'l']

def restOfTrue : Reader Unit :=
  restOfWord ['r', 'u', 'e']

def restOfFalse : Reader Unit :=
  restOfWord ['a', 'l', 's', 'e']

/-! ### Strings -/

def hexDigit? (c : Char) : Option Nat :=
  if c.isDigit then some (c.toNat - '0'.toNat)
  else if 'a' ≤ c ∧ c ≤ 'f' then some (c.toNat - 'a'.toNat + 10)
  else if 'A' ≤ c ∧ c ≤ 'F' then some (c.toNat - 'A'.toNat + 10)
  else none

/-- The 16-bit unit that four hexadecimal digits stand for. -/
def unit? (a b c d : Char) : Option Nat := do
  let a ← hexDigit? a
  let b ← hexDigit? b
  let c ← hexDigit? c
  let d ← hexDigit? d
  return ((a * 16 + b) * 16 + c) * 16 + d

/-- The fault of a text that is too short for four hexadecimal digits. Text of four bytes is there
but wrong. -/
def shortHexFault (text : List Char) : Fault :=
  if 4 ≤ text.foldl (fun size char => size + char.utf8Size) 0 then .invalidEscape else .endInString

/-- Whether a unit is the first half of a pair. -/
def isLeading (unit : Nat) : Bool :=
  0xD800 ≤ unit && unit ≤ 0xDBFF

/-- Whether a unit is the second half of a pair. -/
def isTrailing (unit : Nat) : Bool :=
  0xDC00 ≤ unit && unit ≤ 0xDFFF

def pairChar (leading trailing : Nat) : Char :=
  Char.ofNat (0x10000 + (leading - 0xD800) * 0x400 + (trailing - 0xDC00))

def escape? (c : Char) : Option Char :=
  match c with
  | '"' => some '"'
  | '\\' => some '\\'
  | '/' => some '/'
  | 'b' => some '\x08'
  | 'f' => some '\x0c'
  | 'n' => some '\n'
  | 'r' => some '\r'
  | 't' => some '\t'
  | _ => none

/-- The rest of a string whose opening quote and first characters, `done` in reverse, have been
read. Units from escapes have to form characters. -/
def restOfString (done : List Char) : List Char → Except Fault (String × List Char)
  | [] => .error .endInString
  | '"' :: rest => .ok (String.ofList done.reverse, rest)
  | '\\' :: 'u' :: a :: b :: c :: d :: rest =>
    match unit? a b c d with
    | none => .error .invalidEscape
    | some unit =>
      if isTrailing unit then .error .loneSurrogate
      else if isLeading unit then
        match rest with
        | [] => .error .endInString
        | ['\\'] => .error .endInString
        | '\\' :: 'u' :: e :: f :: g :: h :: rest =>
          match unit? e f g h with
          | none => .error .invalidEscape
          | some trailing =>
            if isTrailing trailing then restOfString (pairChar unit trailing :: done) rest
            else .error .loneSurrogate
        | '\\' :: 'u' :: short => .error (shortHexFault short)
        | _ => .error .endOfHexEscape
      else restOfString (Char.ofNat unit :: done) rest
  | '\\' :: 'u' :: short => .error (shortHexFault short)
  | ['\\'] => .error .endInString
  | '\\' :: letter :: rest =>
    match escape? letter with
    | none => .error .invalidEscape
    | some c => restOfString (c :: done) rest
  | c :: rest => if c.toNat < 0x20 then .error .controlCharacter else restOfString (c :: done) rest

/-- The rest of a string whose opening quote has been read. -/
def stringTail : Reader String :=
  restOfString []

/-! ### Numbers -/

/-- Digits that are read into a number as long as it fits in 64 bits; the others are left over. -/
def absorb (value : Nat) : List Char → Nat × List Char
  | [] => (value, [])
  | digit :: digits =>
    let larger := value * 10 + (digit.toNat - '0'.toNat)
    if larger < Nat.pow 2 64 then absorb larger digits else (value, digit :: digits)

/-- Scales a double by a power of ten in the steps that its range allows. `none` is infinity. -/
def scale? (value : Float) (exponent : Int) : Nat → Option Float
  | 0 => some value
  | tries + 1 =>
    if exponent.natAbs ≤ 308 then
      let power := Float.ofScientific 1 false exponent.natAbs
      if 0 ≤ exponent then
        let scaled := value * power
        if scaled.isInf then none else some scaled
      else
        some (value / power)
    else if value == 0 then some value
    else if 0 ≤ exponent then none
    else scale? (value / Float.ofScientific 1 false 308) (exponent + 308) tries

/-- The double `significand * 10 ^ exponent` with a sign, or the fault of being too large. -/
def double (negative : Bool) (significand : Nat) (exponent : Int) : Reader Number :=
  match scale? significand.toUInt64.toFloat exponent 8 with
  | none => fail .numberOutOfRange
  | some value => return .float (if negative then -value else value).toBits

/-- Whether an exponent is negative, from its sign. -/
def exponentSign : Reader Bool := do
  match ← peek with
  | some '+' => advance; return false
  | some '-' => advance; return true
  | _ => return false

/-- The part of a number after the mark of its exponent. -/
def exponentTail (negative : Bool) (significand : Nat) (exponent : Int) : Reader Number := do
  let downwards ← exponentSign
  match ← next with
  | none => fail .endInValue
  | some first =>
    if first.isDigit then
      let digits := first :: (← span Char.isDigit)
      let size := digits.foldl (fun value c => value * 10 + (c.toNat - '0'.toNat)) 0
      if size < Nat.pow 2 31 then
        double negative significand (if downwards then exponent - size else exponent + size)
      else if significand ≠ 0 ∧ ¬downwards then
        fail .numberOutOfRange
      else
        double negative 0 0
    else
      fail .invalidNumber

/-- A mark of an exponent and what follows it, if there is one. -/
def exponent (negative : Bool) (significand : Nat) (exponent : Int) : Reader Number := do
  match ← peek with
  | some 'e' | some 'E' =>
    advance
    exponentTail negative significand exponent
  | _ => double negative significand exponent

def fractionTail (negative : Bool) (significand : Nat) (before : Int) : Reader Number := do
  match ← span Char.isDigit with
  | [] => do
    match ← peek with
    | none => fail .endInValue
    | some _ => fail .invalidNumber
  | digits =>
    let (significand, left) := absorb significand digits
    exponent negative significand (before - (digits.length - left.length : Nat))

/-- An integer without point and exponent. Negative zero and what does not fit is a double. -/
def whole (negative : Bool) (magnitude : Nat) : Number :=
  if negative then
    if 1 ≤ magnitude ∧ magnitude ≤ Nat.pow 2 63 then .integer (-magnitude)
    else .float (-magnitude.toUInt64.toFloat).toBits
  else
    .integer magnitude

/-- A number whose sign has been read. -/
def number (negative : Bool) : Reader Number := do
  match ← next with
  | none => fail .endInValue
  | some first =>
    if ¬first.isDigit then fail .invalidNumber
    else
      let more ← if first = '0' then pure [] else span Char.isDigit
      let (significand, left) := absorb 0 (first :: more)
      match ← peek with
      | some '.' =>
        advance
        fractionTail negative significand left.length
      | some 'e' | some 'E' => exponent negative significand left.length
      | some c =>
        if first = '0' ∧ c.isDigit then fail .invalidNumber
        else if left.isEmpty then return whole negative significand
        else double negative significand left.length
      | none =>
        if left.isEmpty then return whole negative significand
        else double negative significand left.length

/-- The fault of finding the next token where something else is expected. What was found is read
for it, so that its own faults come first. -/
def unexpected (expected : String) : Reader α := do
  match ← peek with
  | some 'n' => advance; restOfNull; fail (.wrongType .null expected)
  | some 't' => advance; restOfTrue; fail (.wrongType (.bool true) expected)
  | some 'f' => advance; restOfFalse; fail (.wrongType (.bool false) expected)
  | some '"' =>
    advance
    let value ← stringTail
    fail (.wrongType (.string value) expected)
  | some '[' => fail (.wrongType .sequence expected)
  | some '{' => fail (.wrongType .map expected)
  | some c =>
    if c = '-' ∨ c.isDigit then
      if c = '-' then advance
      match ← number (c == '-') with
      | .integer value => fail (.wrongType (.integer value) expected)
      | .float bits => fail (.wrongType (.float bits) expected)
    else
      fail .expectedValue
  | none => fail .expectedValue

/-! ### Lists and objects -/

/-- Whether another item of a list follows; its separator is consumed. -/
def nextItem (first : Bool) : Reader Bool := do
  match ← peekToken with
  | none => fail .endInList
  | some ']' => return false
  | some ',' =>
    if first then return true
    else
      advance
      match ← peekToken with
      | none => fail .endInValue
      | some ']' => fail .trailingComma
      | some _ => return true
  | some _ => if first then return true else fail .expectedCommaOrBracket

/-- Whether another member of an object follows; its separator and opening quote are consumed. -/
def nextKey (first : Bool) : Reader Bool := do
  match ← peekToken with
  | none => fail .endInObject
  | some '\x7d' => return false
  | some c =>
    if first then
      if c = '"' then do advance; return true
      else fail .keyNotString
    else if c = ',' then
      advance
      match ← peekToken with
      | none => fail .endInValue
      | some '"' => do advance; return true
      | some '\x7d' => fail .trailingComma
      | some _ => fail .keyNotString
    else
      fail .expectedCommaOrBrace

def colon : Reader Unit := do
  match ← peekToken with
  | none => fail .endInObject
  | some ':' => advance
  | some _ => fail .expectedColon

def endOfList : Reader Unit := do
  match ← peekToken with
  | none => fail .endInList
  | some ']' => advance
  | some ',' =>
    advance
    match ← peekToken with
    | some ']' => fail .trailingComma
    | _ => fail .trailingCharacters
  | some _ => fail .trailingCharacters

def endOfObject : Reader Unit := do
  match ← peekToken with
  | none => fail .endInObject
  | some '\x7d' => advance
  | some ',' => fail .trailingComma
  | some _ => fail .trailingCharacters

def endOfText : Reader Unit := do
  match ← peekToken with
  | none => pure ()
  | some _ => fail .trailingCharacters

/-- Reads a whole text, after which nothing may follow. -/
def all (reader : Reader α) (text : List Char) : Except Fault α :=
  match StateT.run (do let value ← reader; endOfText; pure value) text with
  | .ok (value, _) => .ok value
  | .error fault => .error fault

/-- The items of a list whose opening bracket has been read, and its end. -/
def items (item : Reader α) : Reader (List α) := do
  let found ← iterate (fun (found : List α) => do
    if ← nextItem found.isEmpty then
      let value ← item
      return some (value :: found)
    else
      return none) []
  endOfList
  return found.reverse

end Reader

end LanguageServer.Json
