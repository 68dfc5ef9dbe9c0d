import LanguageServer.Shell.State

/-! Arithmetic in shell scripts. Numbers have 64 bits. -/

namespace LanguageServer.Shell

/-- Why an expression has no value. -/
inductive ArithmeticFault
  | noPrimary
  | noEnd
  | noColon
  | noParenthesis
  | zeroDivisor
  /-- A variable whose value is not a number. -/
  | notNumber (value : String)
  deriving DecidableEq, Repr

def ArithmeticFault.message (source : String) : ArithmeticFault → String
  | .noPrimary => about "expecting primary"
  | .noEnd => about "expecting EOF"
  | .noColon => about "expecting ':'"
  | .noParenthesis => about "expecting ')'"
  | .zeroDivisor => about "division by zero"
  | .notNumber value => "Illegal number: " ++ value
where
  /-- A fault of the expression as a whole. -/
  about (what : String) : String :=
    "arithmetic expression: " ++ what ++ ": \"" ++ source ++ "\""

/-- The operators with two sides, those that bind least first. -/
def operators : List (List String) :=
  [["||"], ["&&"], ["|"], ["^"], ["&"], ["==", "!="], ["<=", ">=", "<", ">"], ["<<", ">>"],
   ["+", "-"], ["*", "/", "%"]]

/-- The operators that can stand before the sign of an assignment. -/
def assigning : List String :=
  ["<<", ">>", "|", "^", "&", "+", "-", "*", "/", "%"]

/-- The longest operator in front of a text. -/
def longestOperator? (text : List Char) : Option String :=
  let found := operators.flatten.filter fun sign => sign.toList.isPrefixOf text
  found.foldl (fun best sign =>
    match best with
    | some other => if other.length < sign.length then some sign else best
    | none => some sign) none

/-- A number in 64 bits. -/
def wrap (value : Int) : Int :=
  value.bmod (Nat.pow 2 64)

/-- The value of an operator, unless it would divide by zero. -/
def applyOperator (sign : String) (left right : Int) : Except ArithmeticFault Int :=
  let truth (value : Bool) : Except ArithmeticFault Int := .ok (if value then 1 else 0)
  let bits (combine : BitVec 64 → BitVec 64 → BitVec 64) : Except ArithmeticFault Int :=
    .ok (combine (BitVec.ofInt 64 left) (BitVec.ofInt 64 right)).toInt
  match sign with
  | "||" => truth (left != 0 || right != 0)
  | "&&" => truth (left != 0 && right != 0)
  | "==" => truth (left == right)
  | "!=" => truth (left != right)
  | "<=" => truth (left ≤ right)
  | ">=" => truth (left ≥ right)
  | "<" => truth (left < right)
  | ">" => truth (left > right)
  | "+" => .ok (wrap (left + right))
  | "-" => .ok (wrap (left - right))
  | "*" => .ok (wrap (left * right))
  | "/" => if right == 0 then .error .zeroDivisor else .ok (wrap (left.tdiv right))
  | "%" => if right == 0 then .error .zeroDivisor else .ok (left.tmod right)
  | "<<" => bits fun a b => a <<< (b.toNat % 64)
  | ">>" => bits fun a b => a.sshiftRight (b.toNat % 64)
  | "|" => bits (· ||| ·)
  | "^" => bits (· ^^^ ·)
  | "&" => bits (· &&& ·)
  | _ => .error .noEnd

def skipBlanks (text : List Char) : List Char :=
  text.dropWhile fun c => c ∈ [' ', '\t', '\n']

def digitValue (c : Char) : Nat :=
  if c.isDigit then c.toNat - '0'.toNat else c.toLower.toNat - 'a'.toNat + 10

def isDigitIn (base : Nat) (c : Char) : Bool :=
  (c.isDigit || c.isAlpha) && digitValue c < base

/-- The number that digits are in a base. -/
def numberIn (base : Nat) (digits : List Char) : Nat :=
  digits.foldl (fun value c => base * value + digitValue c) 0

/-- A number in front of a text, and the text after it. Octal ones start with a zero, hexadecimal
ones with a zero and an x. -/
def literalNumber (text : List Char) : Nat × List Char :=
  let (base, text) := match text with
    | '0' :: 'x' :: c :: rest => if isDigitIn 16 c then (16, c :: rest) else (8, text)
    | '0' :: 'X' :: c :: rest => if isDigitIn 16 c then (16, c :: rest) else (8, text)
    | '0' :: _ => (8, text)
    | _ => (10, text)
  (numberIn base (text.takeWhile (isDigitIn base)), text.dropWhile (isDigitIn base))

/-- The number that a variable has. One without a value is zero. -/
def variableNumber (value : Option Bytes) : Except ArithmeticFault Int :=
  let text := Text.ofUtf8 (value.getD [])
  let (negative, digits) := match skipBlanks text.toList with
    | '-' :: rest => (true, rest)
    | '+' :: rest => (false, rest)
    | chars => (false, chars)
  if (skipBlanks text.toList).isEmpty then .ok 0
  else
    let (number, rest) := literalNumber digits
    if (digits.head?.any Char.isDigit) && (skipBlanks rest).isEmpty then
      .ok (wrap (if negative then -number else number))
    else .error (.notNumber text)

/-- A name in front of a text, and the text after it. -/
def nameAt? (text : List Char) : Option (String × List Char) :=
  let inWord (c : Char) : Bool := c.isAlphanum || c == '_'
  match text with
  | c :: _ =>
    if c.isAlpha || c == '_' then
      some (String.ofList (text.takeWhile inWord), text.dropWhile inWord)
    else none
  | [] => none

/-- The sign of an assignment in front of a text: the operator in it, if there is one, and the text
after it. -/
def assignmentSign? (text : List Char) : Option (Option String × List Char) :=
  match text with
  | '=' :: '=' :: _ => none
  | '=' :: rest => some (none, rest)
  | _ =>
    assigning.findSome? fun sign =>
      match (sign ++ "=").toList.isPrefixOf? text with
      | some rest => some (some sign, rest)
      | none => none

abbrev Variables := Table String Bytes

mutual

/-- An assignment or another expression, the text after it and the variables as they are then. The
number bounds the depth. -/
def assignmentOr : Nat → Variables → List Char →
    Except ArithmeticFault (Int × List Char × Variables)
  | 0, _, _ => .error .noPrimary
  | fuel + 1, bindings, text =>
    let found := do
      let (name, rest) ← nameAt? (skipBlanks text)
      let (sign, rest) ← assignmentSign? (skipBlanks rest)
      return (name, sign, rest)
    match found with
    | none => ternary fuel bindings text
    | some (name, sign, rest) => do
      let (value, rest, bindings) ← assignmentOr fuel bindings rest
      let value ← match sign with
        | some sign => applyOperator sign (← variableNumber (bindings.get? name)) value
        | none => pure value
      return (value, rest, bindings.put name (bytesOf (toString value)))

/-- A choice of two expressions or another expression. -/
def ternary : Nat → Variables → List Char → Except ArithmeticFault (Int × List Char × Variables)
  | 0, _, _ => .error .noPrimary
  | fuel + 1, bindings, text => do
    let (value, rest, bindings) ← expression fuel operators bindings text
    match skipBlanks rest with
    | '?' :: rest =>
      let (yes, rest, bindings) ← assignmentOr fuel bindings rest
      match skipBlanks rest with
      | ':' :: rest =>
        let (no, rest, bindings) ← ternary fuel bindings rest
        return (if value == 0 then no else yes, rest, bindings)
      | _ => throw .noColon
    | rest => return (value, rest, bindings)

/-- An expression of operators that bind at least as much as the first of some. -/
def expression : Nat → List (List String) → Variables → List Char →
    Except ArithmeticFault (Int × List Char × Variables)
  | 0, _, _, _ => .error .noPrimary
  | fuel + 1, [], bindings, text => operand fuel bindings (skipBlanks text)
  | fuel + 1, _ :: higher, bindings, text => do
    let (left, rest, bindings) ← expression fuel higher bindings text
    further fuel (operators.length - higher.length) left bindings rest

/-- What follows the left side of operators of a level. -/
def further : Nat → (level : Nat) → Int → Variables → List Char →
    Except ArithmeticFault (Int × List Char × Variables)
  | 0, _, _, _, _ => .error .noPrimary
  | fuel + 1, level, left, bindings, text =>
    let text := skipBlanks text
    let signs := (operators[level - 1]?).getD []
    match longestOperator? text with
    | some sign =>
      if signs.contains sign then do
        let (right, rest, bindings) ←
          expression fuel (operators.drop level) bindings (text.drop sign.length)
        further fuel level (← applyOperator sign left right) bindings rest
      else
        .ok (left, text, bindings)
    | none => .ok (left, text, bindings)

/-- A number, a variable or an expression in parentheses. -/
def operand : Nat → Variables → List Char → Except ArithmeticFault (Int × List Char × Variables)
  | 0, _, _ => .error .noPrimary
  | fuel + 1, bindings, '-' :: rest => do
    let (value, rest, bindings) ← operand fuel bindings (skipBlanks rest)
    return (wrap (-value), rest, bindings)
  | fuel + 1, bindings, '+' :: rest => operand fuel bindings (skipBlanks rest)
  | fuel + 1, bindings, '!' :: rest => do
    let (value, rest, bindings) ← operand fuel bindings (skipBlanks rest)
    return (if value == 0 then 1 else 0, rest, bindings)
  | fuel + 1, bindings, '~' :: rest => do
    let (value, rest, bindings) ← operand fuel bindings (skipBlanks rest)
    return (-value - 1, rest, bindings)
  | fuel + 1, bindings, '(' :: rest => do
    let (value, rest, bindings) ← assignmentOr fuel bindings rest
    match skipBlanks rest with
    | ')' :: rest => return (value, rest, bindings)
    | _ => throw .noParenthesis
  | _ + 1, bindings, text =>
    match nameAt? text with
    | some (name, rest) => do
      return (← variableNumber (bindings.get? name), rest, bindings)
    | none =>
      if text.head?.any Char.isDigit then
        let (value, rest) := literalNumber text
        .ok (min value (Int.pow 2 63 - 1), rest, bindings)
      else
        .error .noPrimary

end

def calculate (bindings : Variables) (text : List Char) :
    Except ArithmeticFault (Int × Variables) := do
  let (value, rest, bindings) ← assignmentOr (20 * (text.length + 2)) bindings text
  if (skipBlanks rest).isEmpty then return (value, bindings) else throw .noEnd

end LanguageServer.Shell
