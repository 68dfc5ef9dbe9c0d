import LanguageServer.Text.Blank
import LanguageServer.Text.Lines
import LanguageServer.Text.Number

/-! The messages of a compiler check.

A check prints one message a line, `:<line>:<column>[-<column>]: (error|warning): <message>`,
possibly after other text on that line. Lines without such a part say nothing. -/

namespace LanguageServer

/-- The largest line or column number; larger ones are taken for it. -/
def maxPosition : Nat :=
  4294967295

inductive Severity
  | error
  | warning
  deriving DecidableEq, Repr

def Severity.tag : Severity → String
  | .error => "error"
  | .warning => "warning"

/-- The stretch of text a message is about. Lines count from zero, columns are as reported. -/
structure Span where
  startLine : Nat
  startColumn : Nat
  endLine : Nat
  endColumn : Nat
  deriving DecidableEq, Repr

/-- One message of the compiler about the checked text. -/
structure Diagnostic where
  severity : Severity
  span : Span
  message : String
  deriving DecidableEq, Repr

namespace Diagnostic

open Text

/-- The value of a run of digits. Digits of other scripts and values that are too large give the
largest position. -/
def number (digits : List Char) : Nat :=
  if digits.all Char.isDigit then
    min (digits.foldl (fun value c => 10 * value + (c.toNat - '0'.toNat)) 0) maxPosition
  else
    maxPosition

/-- The part of a message before its text, with the digits as they are written. -/
structure Head where
  line : List Char
  column : List Char
  endColumn : Option (List Char)
  severity : Severity
  deriving DecidableEq, Repr

/-- A longest run of digits, unless it is empty, and what follows it. -/
def digits? (text : List Char) : Option (List Char × List Char) :=
  match text.takeWhile isDigit with
  | [] => none
  | run => some (run, text.dropWhile isDigit)

/-- A severity tag at the start of a text and what follows it. -/
def severity? (text : List Char) : Option (Severity × List Char) :=
  match Severity.error.tag.toList.isPrefixOf? text with
  | some rest => some (.error, rest)
  | none =>
    match Severity.warning.tag.toList.isPrefixOf? text with
    | some rest => some (.warning, rest)
    | none => none

/-- The end of a column range, if there is one at the start of a text, and what follows it. -/
def endColumn? (text : List Char) : Option (List Char) × List Char :=
  match (['-'].isPrefixOf? text).bind digits? with
  | some (run, rest) => (some run, rest)
  | none => (none, text)

/-- A message head at the start of a text and what follows it. -/
def head? (text : List Char) : Option (Head × List Char) := do
  let text ← [':'].isPrefixOf? text
  let (line, text) ← digits? text
  let text ← [':'].isPrefixOf? text
  let (column, text) ← digits? text
  let (endColumn, text) := endColumn? text
  let text ← [':', ' '].isPrefixOf? text
  let (severity, text) ← severity? text
  let text ← [':', ' '].isPrefixOf? text
  return (⟨line, column, endColumn, severity⟩, text)

/-- The leftmost message head of a text and what follows it. -/
def findHead? : List Char → Option (Head × List Char)
  | [] => none
  | c :: rest =>
    match head? (c :: rest) with
    | some found => some found
    | none => findHead? rest

/-- The span that a head points to. Without a range it is one column wide. -/
def Head.span (head : Head) : Span :=
  let line := number head.line - 1
  let column := number head.column
  { startLine := line
    startColumn := column
    endLine := line
    endColumn :=
      match head.endColumn with
      | some digits => number digits
      | none => min (column + 1) maxPosition }

/-- The message that a line holds. Only the part after its last line feed can hold one. -/
def ofLine? (line : List Char) : Option Diagnostic :=
  (findHead? (lastPart line)).map fun (head, text) =>
    ⟨head.severity, head.span, String.ofList (trim text)⟩

/-- The messages of a whole report, in order. -/
def ofReport (report : List Char) : List Diagnostic :=
  (lines report).filterMap ofLine?

end Diagnostic

end LanguageServer
