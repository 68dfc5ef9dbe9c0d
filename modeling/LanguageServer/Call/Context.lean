import LanguageServer.Text.Blank
import LanguageServer.Text.Word

/-! The call around the cursor, found in the text of its line up to the cursor. -/

namespace LanguageServer.Call

open Text

/-- A call that is still open at the cursor. -/
structure Context where
  /-- The called name. -/
  name : List Char
  /-- The position of its parenthesis in the line. -/
  paren : Nat
  /-- The number of arguments that are complete. -/
  commas : Nat
  deriving DecidableEq, Repr

/-- Splits a reversed text at its first parenthesis that opens and is not closed before it.
The answer has what stands before it, towards the start of the text, and the arguments after it in
reading order. -/
def splitOpen : List Char → Nat → List Char → Option (List Char × List Char)
  | [], _, _ => none
  | c :: before, depth, arguments =>
    if c = ')' then
      splitOpen before (depth + 1) (c :: arguments)
    else if c = '(' then
      match depth with
      | 0 => some (before, arguments)
      | depth + 1 => splitOpen before depth (c :: arguments)
    else
      splitOpen before depth (c :: arguments)

/-- Where the count of argument separators stands. -/
structure Separators where
  count : Nat := 0
  depth : Nat := 0
  inString : Bool := false
  escaped : Bool := false
  deriving DecidableEq, Repr

def Separators.step (state : Separators) (c : Char) : Separators :=
  if state.escaped then
    { state with escaped := false }
  else if state.inString then
    match c with
    | '\\' => { state with escaped := true }
    | '"' => { state with inString := false }
    | _ => state
  else
    match c with
    | '"' => { state with inString := true }
    | '(' | '[' | '{' => { state with depth := state.depth + 1 }
    | ')' | ']' | '}' => { state with depth := state.depth - 1 }
    | ',' => if state.depth = 0 then { state with count := state.count + 1 } else state
    | _ => state

/-- The number of commas that separate arguments: those outside strings and brackets. -/
def countCommas (arguments : List Char) : Nat :=
  (arguments.foldl Separators.step {}).count

/-- The name that ends a reversed text, blanks aside. A name does not start with a digit. -/
def nameBefore (before : List Char) : List Char :=
  ((before.dropWhile isBlank).takeWhile isIdentifier).reverse.dropWhile Char.isDigit

/-- The call that the cursor is in, given the text of the line before the cursor. -/
def context? (text : List Char) : Option Context :=
  match splitOpen text.reverse 0 [] with
  | none => none
  | some (before, arguments) =>
    match nameBefore before with
    | [] => none
    | name => some ⟨name, before.length, countCommas arguments⟩

/-- The parameter to highlight: the one the cursor is at, or the last one. -/
def activeParameter (commas parameters : Nat) : Nat :=
  min commas (parameters - 1)

end LanguageServer.Call
