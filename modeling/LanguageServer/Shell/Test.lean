import LanguageServer.Shell.State

/-! Conditions in shell scripts. -/

namespace LanguageServer.Shell

/-- A number in 64 bits, written with blanks around it or not. -/
def integer? (bytes : Bytes) : Option Int :=
  let text := (Text.ofUtf8 bytes).toList
  let blank (c : Char) : Bool := c == ' ' || c == '\t' || c == '\n'
  let text := ((text.dropWhile blank).reverse.dropWhile blank).reverse
  let (negative, digits) := match text with
    | '+' :: rest => (false, rest)
    | '-' :: rest => (true, rest)
    | _ => (false, text)
  if digits.isEmpty || !digits.all Char.isDigit then none
  else
    let value : Nat := digits.foldl (fun value c => 10 * value + (c.toNat - '0'.toNat)) 0
    let value : Int := if negative then -value else value
    if -Int.pow 2 63 ≤ value && value < Int.pow 2 63 then some value else none

inductive TestFault
  | notNumber (argument : Bytes)
  | noArgument (operator : Bytes)
  | leftover (argument : Bytes)
  | noParenthesis
  deriving DecidableEq, Repr

def TestFault.message : TestFault → String
  | .notNumber argument => "Illegal number: " ++ Text.ofUtf8 argument
  | .noArgument operator => Text.ofUtf8 operator ++ ": argument expected"
  | .leftover argument => Text.ofUtf8 argument ++ ": unexpected operator"
  | .noParenthesis => "closing paren expected"

/-- What a test for a kind of file says about what stands at a path. -/
def fileTest? : String → Option (Node → Bool)
  | "-e" => some fun _ => true
  | "-r" => some fun _ => true
  | "-w" => some fun _ => true
  | "-f" => some fun
    | .file .. => true
    | .directory => false
  | "-d" => some fun
    | .file .. => false
    | .directory => true
  | "-x" => some fun
    | .file executable _ => executable
    | .directory => true
  | "-s" => some fun
    | .file _ text => !text.isEmpty
    | .directory => true
  | "-L" => some fun _ => false
  | "-h" => some fun _ => false
  | _ => none

/-- A condition on one argument. -/
def unary? (state : State) (sign : String) : Option (Bytes → Bool) :=
  match sign with
  | "-n" => some fun argument => !argument.isEmpty
  | "-z" => some fun argument => argument.isEmpty
  | "-t" => some fun _ => false
  | _ =>
    (fileTest? sign).map fun test argument =>
      match state.tree.lookup state.directory (Text.ofUtf8 argument) with
      | .ok node => test node
      | .error _ => false

/-- The bytes of one text are before those of another. -/
def isBefore : Bytes → Bytes → Bool
  | _, [] => false
  | [], _ :: _ => true
  | a :: left, b :: right => a < b || a == b && isBefore left right

/-- A condition on two arguments. -/
def binary? (sign : String) : Option (Bytes → Bytes → Except TestFault Bool) :=
  let numbers (test : Int → Int → Bool) : Option (Bytes → Bytes → Except TestFault Bool) :=
    some fun left right =>
      match integer? left, integer? right with
      | some a, some b => .ok (test a b)
      | none, _ => .error (.notNumber left)
      | _, none => .error (.notNumber right)
  match sign with
  | "=" => some fun left right => .ok (left == right)
  | "!=" => some fun left right => .ok (left != right)
  | "<" => some fun left right => .ok (isBefore left right)
  | ">" => some fun left right => .ok (isBefore right left)
  | "-eq" => numbers (· == ·)
  | "-ne" => numbers (· != ·)
  | "-lt" => numbers (· < ·)
  | "-le" => numbers (· ≤ ·)
  | "-gt" => numbers (· > ·)
  | "-ge" => numbers (· ≥ ·)
  | "-nt" => some fun _ _ => .ok false
  | "-ot" => some fun _ _ => .ok false
  | "-ef" => some fun _ _ => .ok false
  | _ => none

/-- What was read of a condition: its value, the last argument that it took and those that are
left. -/
structure Verdict where
  holds : Bool
  last : Bytes
  rest : List Bytes

/-- Whether an operator with one argument is a plain text here, because of what follows it. -/
def isOperand (rest : List Bytes) : Bool :=
  match rest with
  | [] => true
  | [_] => false
  | next :: _ :: _ => (binary? (Text.ofUtf8 next)).isSome

mutual

/-- Conditions of which one has to hold. The number bounds the depth. -/
def anyOf (state : State) : Nat → List Bytes → Except TestFault Verdict
  | 0, _ => .error .noParenthesis
  | fuel + 1, arguments => do
    let left ← allOf state fuel arguments
    match left.rest with
    | [] => return left
    | sign :: rest =>
      if sign == bytesOf "-o" then
        let right ← anyOf state fuel rest
        return { right with holds := left.holds || right.holds }
      else return left

/-- Conditions that all have to hold. -/
def allOf (state : State) : Nat → List Bytes → Except TestFault Verdict
  | 0, _ => .error .noParenthesis
  | fuel + 1, arguments => do
    let left ← negated state fuel arguments
    match left.rest with
    | [] => return left
    | sign :: rest =>
      if sign == bytesOf "-a" then
        let right ← allOf state fuel rest
        return { right with holds := left.holds && right.holds }
      else return left

def negated (state : State) : Nat → List Bytes → Except TestFault Verdict
  | 0, _ => .error .noParenthesis
  | fuel + 1, sign :: first :: rest =>
    if sign == bytesOf "!" && !((binary? (Text.ofUtf8 first)).isSome && !rest.isEmpty) then do
      let inner ← negated state fuel (first :: rest)
      return { inner with holds := !inner.holds }
    else primary state fuel (sign :: first :: rest)
  | fuel + 1, arguments => primary state fuel arguments

/-- A condition without others in it, or one in parentheses. -/
def primary (state : State) : Nat → List Bytes → Except TestFault Verdict
  | 0, _ => .error .noParenthesis
  | _ + 1, [] => .ok ⟨false, [], []⟩
  | fuel + 1, first :: rest =>
    let compare : Except TestFault Verdict :=
      match rest with
      | sign :: more =>
        match binary? (Text.ofUtf8 sign), more with
        | some test, right :: more => do return ⟨← test first right, right, more⟩
        | some _, [] => .error (.noArgument sign)
        | none, _ => .ok ⟨!first.isEmpty, first, rest⟩
      | [] => .ok ⟨!first.isEmpty, first, []⟩
    if first == bytesOf "(" && !rest.isEmpty then
      match rest with
      | close :: more =>
        if close == bytesOf ")" then .ok ⟨false, close, more⟩
        else do
          let inner ← anyOf state fuel rest
          match inner.rest with
          | close :: more =>
            if close == bytesOf ")" then return { inner with last := close, rest := more }
            else throw .noParenthesis
          | [] => throw .noParenthesis
      | [] => compare
    else
      match unary? state (Text.ofUtf8 first), rest with
      | some test, argument :: more =>
        if isOperand rest then compare else .ok ⟨test argument, argument, more⟩
      | _, _ => compare

end

def holds (state : State) (arguments : List Bytes) : Except TestFault Bool := do
  let verdict ← anyOf state (6 * arguments.length + 6) arguments
  if verdict.rest.isEmpty then return verdict.holds else throw (.leftover verdict.last)

end LanguageServer.Shell
