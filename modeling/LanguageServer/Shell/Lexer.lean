import LanguageServer.Shell.Syntax
import LanguageServer.Text.Split

/-! Cutting a shell script into tokens. -/

namespace LanguageServer.Shell

def endsWord (c : Char) : Bool :=
  c ∈ [' ', '\t', '\n', ';', '&', '|', '<', '>', '(', ')']

def startsName (c : Char) : Bool :=
  c.isAlpha || c == '_'

def inName (c : Char) : Bool :=
  c.isAlphanum || c == '_'

/-- The text up to the parenthesis or brace that closes one that is open, and the text after it.
What is quoted does not count. -/
def closing? (opens closes : Char) : (depth : Nat) → (quote : Option Char) → List Char →
    Option (List Char × List Char)
  | _, _, [] => none
  | depth, quote, '\\' :: c :: rest =>
    (closing? opens closes depth quote rest).map fun (inside, after) => ('\\' :: c :: inside, after)
  | depth, some mark, c :: rest =>
    (closing? opens closes depth (if c == mark then none else some mark) rest).map
      fun (inside, after) => (c :: inside, after)
  | depth, none, c :: rest =>
    if c == closes && depth == 0 then some ([], rest)
    else
      let depth := if c == opens then depth + 1 else if c == closes then depth - 1 else depth
      let quote := if c == '\x27' || c == '"' then some c else none
      (closing? opens closes depth quote rest).map fun (inside, after) => (c :: inside, after)

/-- A parameter from the text that names it. -/
def parameter? (name : List Char) : Option Parameter :=
  match name with
  | ['@'] => some .arguments
  | ['*'] => some .joined
  | ['#'] => some .count
  | ['?'] => some .status
  | ['$'] => some .process
  | ['-'] => some .flags
  | ['!'] => some .background
  | c :: rest =>
    if startsName c && rest.all inName then some (.variable (String.ofList name))
    else if name.all Char.isDigit then (String.ofList name).toNat?.map .argument
    else none
  | [] => none

/-- The adjustment that stands after a parameter: whether an empty value counts as none, and the
word. -/
def adjustment? : List Char → Option (Adjustment × Bool × List Char)
  | ':' :: '-' :: word => some (.fallback, true, word)
  | ':' :: '=' :: word => some (.assign, true, word)
  | ':' :: '+' :: word => some (.alternative, true, word)
  | ':' :: '?' :: word => some (.demand, true, word)
  | '-' :: word => some (.fallback, false, word)
  | '=' :: word => some (.assign, false, word)
  | '+' :: word => some (.alternative, false, word)
  | '?' :: word => some (.demand, false, word)
  | '#' :: '#' :: word => some (.trim false true, false, word)
  | '#' :: word => some (.trim false false, false, word)
  | '%' :: '%' :: word => some (.trim true true, false, word)
  | '%' :: word => some (.trim true false, false, word)
  | _ => none

/-- The part of a text in braces that names a parameter, and the rest. -/
def splitName (inside : List Char) : List Char × List Char :=
  match inside with
  | c :: rest =>
    if startsName c then (inside.takeWhile inName, inside.dropWhile inName)
    else if c.isDigit then (inside.takeWhile Char.isDigit, inside.dropWhile Char.isDigit)
    else ([c], rest)
  | [] => ([], [])

/-- What stands between braces. -/
def braced (inside : List Char) : Meaning :=
  let named : Meaning :=
    let (name, rest) := splitName inside
    match parameter? name, rest with
    | some parameter, [] => .value parameter
    | some parameter, _ =>
      match adjustment? rest with
      | some (adjustment, orEmpty, word) => .adjusted parameter adjustment orEmpty word
      | none => .nonsense
    | none, _ => .nonsense
  match inside with
  | '#' :: c :: rest =>
    match parameter? (c :: rest) with
    | some parameter => .length parameter
    | none => named
  | _ => named

/-- What a dollar sign starts, and the text after it. -/
def dollar (text : List Char) : Except String (Meaning × List Char) :=
  let plain := .ok (Meaning.text ['$'], text)
  match text with
  | '(' :: rest =>
    match closing? '(' ')' 0 none rest with
    | some (inside, after) =>
      match inside, inside.getLast? with
      | '(' :: expression, some ')' => .ok (.arithmetic expression.dropLast, after)
      | _, _ => .ok (.output inside, after)
    | none =>
      match rest with
      | '(' :: _ => .error "Missing '))'"
      | _ => .error "end of file unexpected (expecting \")\")"
  | '\x7b' :: rest =>
    match closing? '\x7b' '\x7d' 0 none rest with
    | some (inside, after) => .ok (braced inside, after)
    | none => .error "Missing '\x7d'"
  | c :: rest =>
    if startsName c then
      .ok (.value (.variable (String.ofList (text.takeWhile inName))), text.dropWhile inName)
    else
      match parameter? [c] with
      | some parameter => .ok (.value parameter, rest)
      | none => plain
  | [] => plain

/-- The text up to the next backquote, without the backslashes that protect it, and the text after
it. -/
def backquoted? : List Char → Option (List Char × List Char)
  | [] => none
  | '\x60' :: rest => some ([], rest)
  | '\\' :: c :: rest =>
    (backquoted? rest).map fun (inside, after) =>
      if c ∈ ['$', '\x60', '\\'] then (c :: inside, after) else ('\\' :: c :: inside, after)
  | c :: rest => (backquoted? rest).map fun (inside, after) => (c :: inside, after)

def consChar (quoted : Bool) (c : Char) : Word → Word
  | ⟨q, .text chars⟩ :: rest =>
    if q == quoted then ⟨q, .text (c :: chars)⟩ :: rest
    else ⟨quoted, .text [c]⟩ :: ⟨q, .text chars⟩ :: rest
  | word => ⟨quoted, .text [c]⟩ :: word

/-- Where in a word a character stands. -/
inductive Context
  | open
  /-- In a word that ends with the text. -/
  | loose
  /-- Between double quotes in a word of one of these kinds. -/
  | quoted (loose : Bool)
  /-- In a text in which quotes mean nothing. -/
  | document
  deriving DecidableEq, Repr

namespace Context

def isQuoted : Context → Bool
  | .open | .loose => false
  | .quoted _ | .document => true

/-- Where a double quote leads. -/
def turn : Context → Context
  | .open => .quoted false
  | .loose => .quoted true
  | .quoted true => .loose
  | .quoted false => .open
  | .document => .document

/-- The characters that a backslash protects between quotes. -/
def isProtected (context : Context) (c : Char) : Bool :=
  c ∈ ['$', '\x60', '\\'] || c == '"' && context != .document

end Context

/-- The rest of a word and the text after it. The number bounds the length. -/
def word : Nat → Context → List Char → Except String (Word × List Char)
  | 0, _, text => .ok ([], text)
  | _ + 1, .quoted _, [] => .error "Unterminated quoted string"
  | _ + 1, _, [] => .ok ([], [])
  | fuel + 1, context, c :: rest =>
    let quoted := context.isQuoted
    let add (quoted : Bool) (c : Char) (text : List Char) : Except String (Word × List Char) := do
      let (found, more) ← word fuel context text
      return (consChar quoted c found, more)
    let put (piece : Piece) (context : Context) (text : List Char) :
        Except String (Word × List Char) := do
      let (found, more) ← word fuel context text
      return (piece :: found, more)
    if context == .open && endsWord c then .ok ([], c :: rest)
    else
      match c, rest with
      | '\\', '\n' :: more => word fuel context more
      | '\\', d :: more =>
        if !quoted || context.isProtected d then add true d more else add true '\\' rest
      | '$', _ => do
        let (meaning, after) ← dollar rest
        put ⟨quoted, meaning⟩ context after
      | '\x60', _ =>
        match backquoted? rest with
        | some (inside, after) => put ⟨quoted, .output inside⟩ context after
        | none => .error "EOF in backquote substitution"
      | '"', _ =>
        if context == .document then add true c rest
        else if quoted then word fuel context.turn rest
        else
          match rest with
          | '"' :: after => put ⟨true, .text []⟩ context after
          | _ => word fuel context.turn rest
      | '\x27', _ =>
        if quoted then add true c rest
        else
          let inside := rest.takeWhile (· ≠ '\x27')
          match rest.drop inside.length with
          | _ :: after => put ⟨true, .text inside⟩ context after
          | [] => .error "Unterminated quoted string"
      | _, _ => add quoted c rest

def redirection? (line : Nat) (text : List Char) : Option (Token × List Char) :=
  let digits := text.takeWhile Char.isDigit
  let number (standard : Nat) : Nat := ((String.ofList digits).toNat?).getD standard
  let token (standard : Nat) (mode : Mode) (rest : List Char) : Option (Token × List Char) :=
    some (.redirection line (number standard) mode, rest)
  match text.drop digits.length with
  | '>' :: '>' :: rest => token 1 .append rest
  | '>' :: '&' :: rest => token 1 .duplicate rest
  | '>' :: '|' :: rest => token 1 .write rest
  | '<' :: '<' :: rest => token 0 .document rest
  | '<' :: '&' :: rest => token 0 .duplicate rest
  | '>' :: rest => token 1 .write rest
  | '<' :: rest => token 0 .read rest
  | _ => none

def operator? : List Char → Option (String × List Char)
  | '&' :: '&' :: rest => some ("&&", rest)
  | '|' :: '|' :: rest => some ("||", rest)
  | ';' :: ';' :: rest => some (";;", rest)
  | ';' :: rest => some (";", rest)
  | '&' :: rest => some ("&", rest)
  | '|' :: rest => some ("|", rest)
  | '(' :: rest => some ("(", rest)
  | ')' :: rest => some (")", rest)
  | '\n' :: rest => some ("\n", rest)
  | _ => none

/-- The lines of a document up to the one that ends it, and those after it. -/
def documentLines (delimiter : List Char) (strip : Bool) :
    List (List Char) → List (List Char) × List (List Char)
  | [] => ([], [])
  | line :: rest =>
    let line := if strip then line.dropWhile (· == '\t') else line
    if line == delimiter then ([], rest)
    else
      let (inside, after) := documentLines delimiter strip rest
      (line :: inside, after)

/-- A document that starts on the line after a text and ends with a delimiter: what it holds, the
text without it, and how many lines it took. -/
structure Excerpt where
  body : List Char
  rest : List Char
  lines : Nat

/-- Cuts a document out of the lines after the first. -/
def excerpt (delimiter : List Char) (strip : Bool) (text : List Char) : Excerpt :=
  match Text.split (· == '\n') text with
  | [] => ⟨[], text, 0⟩
  | first :: rest =>
    let (inside, after) := documentLines delimiter strip rest
    let ended := inside.length < rest.length
    let body := List.intercalate ['\n'] inside ++ (if ended && !inside.isEmpty then ['\n'] else [])
    ⟨body, List.intercalate ['\n'] (first :: after), rest.length - after.length⟩

/-- The characters of a word that expands to nothing but itself. -/
def literal (word : Word) : List Char :=
  word.flatMap fun piece =>
    match piece.meaning with
    | .text chars => chars
    | _ => []

/-- A document: its delimiter is the next word of a text. What it holds is expanded unless the
delimiter is quoted. -/
def document (line descriptor : Nat) (text : List Char) :
    Except String (Token × List Char × Nat) := do
  let (strip, text) := match text with
    | '-' :: rest => (true, rest)
    | _ => (false, text)
  let text := text.dropWhile fun c => c == ' ' || c == '\t'
  let (delimiter, rest) ← word (text.length + 1) .open text
  let found := excerpt (literal delimiter) strip rest
  let body ←
    if delimiter.any (·.quoted) then pure [⟨true, .text found.body⟩]
    else (·.1) <$> word (found.body.length + 1) .document found.body
  return (.document line descriptor body, found.rest, found.lines)

/-- How many lines end in the part of a text before another one. -/
def linesBetween (text rest : List Char) : Nat :=
  ((text.take (text.length - rest.length)).filter (· == '\n')).length

/-- The tokens of a text that starts on a line. The lines of documents are passed at the end of the
line that they belong to. The number bounds the length. -/
def tokensFrom : Nat → (line passed : Nat) → List Char → List Token
  | 0, line, _, _ => [.ending line]
  | _ + 1, line, _, [] => [.ending line]
  | fuel + 1, line, passed, c :: rest =>
    let text := c :: rest
    let failed (message : String) : List Token := [.fault (line + linesBetween text []) message]
    if c == ' ' || c == '\t' then tokensFrom fuel line passed rest
    else if c == '#' then tokensFrom fuel line passed (text.dropWhile (· ≠ '\n'))
    else
      match c, rest with
      | '\\', '\n' :: more => tokensFrom fuel (line + 1) passed more
      | _, _ =>
        match redirection? line text, operator? text with
        | some (.redirection _ descriptor .document, more), _ =>
          match document line descriptor more with
          | .ok (token, more, lines) => token :: tokensFrom fuel line (passed + lines) more
          | .error message => failed message
        | some (token, more), _ => token :: tokensFrom fuel line passed more
        | none, some ("\n", more) =>
          .operator (line + 1) "\n" :: tokensFrom fuel (line + 1 + passed) 0 more
        | none, some (sign, more) => .operator line sign :: tokensFrom fuel line passed more
        | none, none =>
          match word (text.length + 1) .open text with
          | .ok (found, more) =>
            let after := line + linesBetween text more
            .word after found :: tokensFrom fuel after passed more
          | .error message => failed message

def tokens (script : List Char) : List Token :=
  tokensFrom (script.length + 1) 1 0 script

end LanguageServer.Shell
