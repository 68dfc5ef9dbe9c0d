import LanguageServer.Text.Blank
import LanguageServer.Text.Lines
import LanguageServer.Text.Word

/-! The place where a function is defined, found in the text alone.

A definition is `fn`, blanks, the name, perhaps blanks, and an opening parenthesis. -/

namespace LanguageServer.Call

open Text

/-- Where the name of a function stands in its definition. Both numbers count from zero. They are not
cut to 32 bits, which makes no difference in a text of at most `maxPosition` characters. -/
structure Site where
  line : Nat
  column : Nat
  deriving DecidableEq, Repr

/-- Whether the name and then a parameter list start here. -/
def namedHere (name text : List Char) : Bool :=
  match name.isPrefixOf? text with
  | none => false
  | some rest => (rest.dropWhile isBlank).head? == some '('

/-- How many of the characters before the name are blanks, if `most` of them may be. At least one
is, and the most possible are. -/
def blanksBefore? (name text : List Char) : Nat → Option Nat
  | 0 => none
  | most + 1 =>
    if namedHere name (text.drop (most + 1)) then some (most + 1)
    else blanksBefore? name text most

/-- How far the name is from the start of a definition that starts here. -/
def definitionHere? (name text : List Char) : Option Nat :=
  match ['f', 'n'].isPrefixOf? text with
  | none => none
  | some rest => (blanksBefore? name rest (rest.takeWhile isBlank).length).map (· + 2)

/-- The column of the name in the first definition of a line that starts at or after `column`,
where `inWord` tells whether a word character stands right before. -/
def columnFrom? (name : List Char) (column : Nat) (inWord : Bool) : List Char → Option Nat
  | [] => none
  | c :: rest =>
    match if inWord then none else definitionHere? name (c :: rest) with
    | some offset => some (column + offset)
    | none => columnFrom? name (column + 1) (isWord c) rest

/-- The first definition in some lines, counted from `line`. -/
def siteFrom? (name : List Char) (line : Nat) : List (List Char) → Option Site
  | [] => none
  | text :: more =>
    match columnFrom? name 0 false text with
    | some column => some ⟨line, column⟩
    | none => siteFrom? name (line + 1) more

/-- The first definition of a function in a text. A name can have any length, although
a pattern for a very long one could not be compiled. -/
def definition? (text name : List Char) : Option Site :=
  siteFrom? name 0 (lines text)

end LanguageServer.Call
