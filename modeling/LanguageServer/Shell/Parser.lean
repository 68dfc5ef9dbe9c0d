import LanguageServer.Shell.Lexer

/-! Reading a shell script. -/

namespace LanguageServer.Shell

/-- The words that the shell keeps for itself. -/
def reserved : List String :=
  ["!", "case", "do", "done", "elif", "else", "esac", "fi", "for", "if", "in", "then", "until",
   "while", "\x7b", "\x7d"]

/-- Reserved words that end a list of commands. -/
def stops : List String :=
  ["do", "done", "elif", "else", "esac", "fi", "then", "\x7d"]

namespace Token

/-- The text of a token that is a word without quotes and parameters. -/
def plain? : Token → Option String
  | .word _ [⟨false, .text chars⟩] => some (String.ofList chars)
  | _ => none

def reserved? (token : Token) : Option String :=
  token.plain?.filter reserved.contains

def isReserved (token : Token) (name : String) : Bool :=
  token.plain? == some name

def isOperator (token : Token) (sign : String) : Bool :=
  match token with
  | .operator _ text => text == sign
  | _ => false

def isStop (token : Token) : Bool :=
  match token with
  | .ending _ => true
  | .operator _ sign => sign == ")" || sign == ";;"
  | _ => stops.any token.isReserved

def line : Token → Nat
  | .word line _ => line
  | .operator line _ => line
  | .redirection line .. => line
  | .document line .. => line
  | .fault line _ => line
  | .ending line => line

/-- How a token is called when it should not be there. -/
def title (token : Token) : String :=
  match token with
  | .ending _ => "end of file"
  | .operator _ "\n" => "newline"
  | .operator _ sign => "\"" ++ sign ++ "\""
  | .redirection .. => "redirection"
  | .document .. => "redirection"
  | .fault .. => "word"
  | .word .. =>
    match token.reserved? with
    | some name => "\"" ++ name ++ "\""
    | none => "word"

end Token

/-- The fault of a token that should not be there, perhaps instead of another one. -/
def unexpected (tokens : List Token) (expected : Option String) : Fault :=
  match tokens with
  | .fault line message :: _ => ⟨line, message⟩
  | token :: _ =>
    let instead := match expected with
      | some name => " (expecting " ++ name ++ ")"
      | none => ""
    ⟨token.line, token.title ++ " unexpected" ++ instead⟩
  | [] => ⟨0, "end of file unexpected"⟩

/-- Tokens without the ends of lines in front. -/
def skipLines (tokens : List Token) : List Token :=
  tokens.dropWhile (·.isOperator "\n")

def expect (name : String) (tokens : List Token) : Except Fault (List Token) :=
  let tokens := skipLines tokens
  match tokens with
  | token :: rest =>
    if token.isReserved name then .ok rest
    else .error (unexpected tokens (some ("\"" ++ name ++ "\"")))
  | [] => .error (unexpected tokens none)

def expectOperator (sign : String) (tokens : List Token) : Except Fault (List Token) :=
  match tokens with
  | token :: rest =>
    if token.isOperator sign then .ok rest
    else .error (unexpected tokens (some ("\"" ++ sign ++ "\"")))
  | [] => .error (unexpected tokens none)

def redirections : List Token → Except Fault (List Redirection × List Token)
  | .redirection _ descriptor mode :: .word _ word :: rest => do
    let (more, rest) ← redirections rest
    return (⟨descriptor, mode, word⟩ :: more, rest)
  | .document _ descriptor word :: rest => do
    let (more, rest) ← redirections rest
    return (⟨descriptor, .document, word⟩ :: more, rest)
  | .redirection .. :: rest => .error (unexpected rest none)
  | tokens => .ok ([], tokens)

def assignment? : Word → Option (String × Word)
  | ⟨false, .text chars⟩ :: rest =>
    let name := chars.takeWhile inName
    match name, chars.dropWhile inName with
    | c :: _, '=' :: value =>
      if startsName c then
        let value := if value.isEmpty then rest else ⟨false, .text value⟩ :: rest
        some (String.ofList name, value)
      else none
    | _, _ => none
  | _ => none

/-- The words and redirections of a simple command. -/
def simpleParts : List Token → Except Fault ((List Word × List Redirection) × List Token)
  | .word _ word :: rest => do
    let ((words, redirections), rest) ← simpleParts rest
    return ((word :: words, redirections), rest)
  | .redirection _ descriptor mode :: .word _ word :: rest => do
    let ((words, redirections), rest) ← simpleParts rest
    return ((words, ⟨descriptor, mode, word⟩ :: redirections), rest)
  | .document _ descriptor word :: rest => do
    let ((words, redirections), rest) ← simpleParts rest
    return ((words, ⟨descriptor, .document, word⟩ :: redirections), rest)
  | .redirection .. :: rest => .error (unexpected rest none)
  | tokens => .ok (([], []), tokens)

/-- Splits the assignments off the words of a command. -/
def assignments : List Word → List (String × Word) × List Word
  | [] => ([], [])
  | word :: rest =>
    match assignment? word with
    | some found =>
      let (more, words) := assignments rest
      (found :: more, words)
    | none => ([], word :: rest)

def lineOf (tokens : List Token) : Nat :=
  (tokens.head?.map Token.line).getD 0

def simple (tokens : List Token) : Except Fault (Command × List Token) := do
  let ((words, redirections), rest) ← simpleParts tokens
  if words.isEmpty && redirections.isEmpty then throw (unexpected tokens none)
  let (assigned, words) := assignments words
  return (.simple (lineOf tokens) assigned words redirections, rest)

def leadingWords : List Token → List Word × List Token
  | .word _ word :: rest =>
    let (words, rest) := leadingWords rest
    (word :: words, rest)
  | tokens => ([], tokens)

/-- Whether a text can name a variable or a function. -/
def isName (text : String) : Bool :=
  match text.toList with
  | c :: rest => startsName c && rest.all inName
  | [] => false

/-- The patterns of a clause up to the parenthesis. -/
def patterns : List Token → Except Fault (List Word × List Token)
  | .word _ word :: .operator _ "|" :: rest => do
    let (more, rest) ← patterns rest
    return (word :: more, rest)
  | .word _ word :: rest => do
    return ([word], ← expectOperator ")" rest)
  | tokens => .error (unexpected tokens (some "\")\""))

mutual

/-- Commands up to a token that ends them, of which there is at least one unless the script ends.
The number bounds the depth. -/
def commands : Nat → List Token → Except Fault (List Command × List Token)
  | 0, tokens => .error (unexpected tokens none)
  | fuel + 1, tokens =>
    match skipLines tokens with
    | tokens@(.ending _ :: _) => .ok ([], tokens)
    | tokens => do
      let (first, rest) ← conditional fuel tokens
      let next (first : Command) (rest : List Token) : Except Fault (List Command × List Token) := do
        let rest := skipLines rest
        if (rest.head?.map Token.isStop).getD true then return ([first], rest)
        let (more, rest) ← commands fuel rest
        return (first :: more, rest)
      match rest with
      | .operator _ "&" :: rest => next (.background first) rest
      | .operator _ ";" :: rest => next first rest
      | .operator _ "\n" :: rest => next first rest
      | rest => return ([first], rest)

/-- Commands that depend on how the one before them ended. -/
def conditional : Nat → List Token → Except Fault (Command × List Token)
  | 0, tokens => .error (unexpected tokens none)
  | fuel + 1, tokens => do
    let (first, rest) ← pipeline fuel tokens
    conditionalRest fuel first rest

/-- What follows a command that others depend on. -/
def conditionalRest : Nat → Command → List Token → Except Fault (Command × List Token)
  | 0, _, tokens => .error (unexpected tokens none)
  | fuel + 1, first, .operator _ "&&" :: rest => do
    let (second, rest) ← pipeline fuel (skipLines rest)
    conditionalRest fuel (.both first second) rest
  | fuel + 1, first, .operator _ "||" :: rest => do
    let (second, rest) ← pipeline fuel (skipLines rest)
    conditionalRest fuel (.either first second) rest
  | _ + 1, first, rest => .ok (first, rest)

/-- Commands that pass their output on. -/
def pipeline : Nat → List Token → Except Fault (Command × List Token)
  | 0, tokens => .error (unexpected tokens none)
  | fuel + 1, tokens => do
    match tokens with
    | token :: rest =>
      if token.isReserved "!" then
        let (command, rest) ← pipeline fuel rest
        return (.negation command, rest)
    | [] => pure ()
    let (first, rest) ← command fuel tokens
    match rest with
    | .operator _ "|" :: rest =>
      let (second, rest) ← pipeline fuel (skipLines rest)
      return (.pipe first second, rest)
    | _ => return (first, rest)

def command : Nat → List Token → Except Fault (Command × List Token)
  | 0, tokens => .error (unexpected tokens none)
  | fuel + 1, tokens => do
    let finish (body : Command) (rest : List Token) : Except Fault (Command × List Token) := do
      let (found, rest) ← redirections rest
      return (if found.isEmpty then body else .redirected (lineOf tokens) body found, rest)
    match tokens with
    | .operator _ "(" :: rest =>
      let (body, rest) ← commands fuel rest
      finish (.subshell (.sequence body)) (← expectOperator ")" rest)
    | .word _ name :: .operator line "(" :: rest =>
      if (assignment? name).isSome then return ← simple tokens
      let rest ← expectOperator ")" rest
      let name := String.ofList (literal name)
      if !isName name then throw ⟨line, "Bad function name"⟩
      let (body, rest) ← command fuel (skipLines rest)
      return (.function name body, rest)
    | token :: rest =>
      match token.reserved? with
      | some "\x7b" =>
        let (body, rest) ← commands fuel rest
        finish (.sequence body) (← expect "\x7d" rest)
      | some "if" =>
        let (body, rest) ← branches fuel rest
        finish body rest
      | some "while" =>
        let (body, rest) ← loop fuel true rest
        finish body rest
      | some "until" =>
        let (body, rest) ← loop fuel false rest
        finish body rest
      | some "for" =>
        let (body, rest) ← each fuel token.line rest
        finish body rest
      | some "case" =>
        match rest with
        | .word _ subject :: rest =>
          let (clauses, rest) ← clauses fuel (skipLines (← expect "in" rest))
          finish (.choice subject clauses) rest
        | _ => throw (unexpected rest (some "word"))
      | some "in" => simple tokens
      | some _ => throw (unexpected tokens none)
      | none => simple tokens
    | [] => throw (unexpected tokens none)

def loop : Nat → (succeeds : Bool) → List Token → Except Fault (Command × List Token)
  | 0, _, tokens => .error (unexpected tokens none)
  | fuel + 1, succeeds, tokens => do
    let (condition, rest) ← commands fuel tokens
    let (body, rest) ← commands fuel (← expect "do" rest)
    return (.loop succeeds (.sequence condition) (.sequence body), ← expect "done" rest)

/-- A loop over words, after its first word. -/
def each : Nat → (line : Nat) → List Token → Except Fault (Command × List Token)
  | 0, _, tokens => .error (unexpected tokens none)
  | fuel + 1, line, tokens => do
    let name := (tokens.head?.bind Token.plain?).getD ""
    if !isName name then throw ⟨line, "Bad for loop variable"⟩
    let rest := skipLines tokens.tail
    let (words, rest) ← match rest with
      | token :: more =>
        if token.isReserved "in" then
          let (words, more) := leadingWords more
          match more with
          | .operator _ ";" :: more => pure (some words, more)
          | .operator _ "\n" :: more => pure (some words, more)
          | _ => throw (unexpected more none)
        else if token.isOperator ";" then pure (none, more)
        else pure (none, rest)
      | [] => pure (none, rest)
    let (body, rest) ← commands fuel (← expect "do" rest)
    return (.each name words (.sequence body), ← expect "done" rest)

/-- The clauses of a choice up to its last word. -/
def clauses : Nat → List Token → Except Fault ((List (List Word × Command)) × List Token)
  | 0, tokens => .error (unexpected tokens none)
  | fuel + 1, tokens => do
    match skipLines tokens with
    | [] => throw (unexpected [] none)
    | token :: rest =>
      if token.isReserved "esac" then return ([], rest)
      let opened := if token.isOperator "(" then rest else token :: rest
      let (found, rest) ← patterns opened
      let rest := skipLines rest
      let (body, rest) ←
        if rest.head?.any fun token => token.isOperator ";;" || token.isReserved "esac" then
          pure ([], rest)
        else commands fuel rest
      match skipLines rest with
      | .operator _ ";;" :: rest =>
        let (more, rest) ← clauses fuel rest
        return ((found, .sequence body) :: more, rest)
      | token :: rest =>
        if token.isReserved "esac" then return ([(found, .sequence body)], rest)
        throw (unexpected (token :: rest) (some "\";;\""))
      | [] => throw (unexpected [] none)

/-- A choice after its first word. -/
def branches : Nat → List Token → Except Fault (Command × List Token)
  | 0, tokens => .error (unexpected tokens none)
  | fuel + 1, tokens => do
    let (condition, rest) ← commands fuel tokens
    let (yes, rest) ← commands fuel (← expect "then" rest)
    match rest with
    | token :: rest =>
      if token.isReserved "elif" then
        let (no, rest) ← branches fuel rest
        return (.branch (.sequence condition) (.sequence yes) no, rest)
      else if token.isReserved "else" then
        let (no, rest) ← commands fuel rest
        return (.branch (.sequence condition) (.sequence yes) (.sequence no), ← expect "fi" rest)
      else
        return (.branch (.sequence condition) (.sequence yes) (.sequence []),
          ← expect "fi" (token :: rest))
    | [] => throw (unexpected [] none)

end

/-- The commands up to the end of a line. -/
def line (depth : Nat) : Nat → List Token → Except Fault (List Command × List Token)
  | 0, tokens => .error (unexpected tokens none)
  | fuel + 1, tokens => do
    let (first, rest) ← conditional depth tokens
    let next (first : Command) (rest : List Token) : Except Fault (List Command × List Token) := do
      match rest with
      | .operator _ "\n" :: rest => return ([first], rest)
      | .ending _ :: _ => return ([first], rest)
      | _ =>
        let (more, rest) ← line depth fuel rest
        return (first :: more, rest)
    match rest with
    | .operator _ "&" :: rest => next (.background first) rest
    | .operator _ ";" :: rest => next first rest
    | .operator _ "\n" :: rest => return ([first], rest)
    | .ending _ :: _ => return ([first], rest)
    | rest => throw (unexpected rest none)

/-- The commands of a script, and why no more of it can be read, if that is so. A script is read by
the line: what stands on the lines before a fault counts. -/
def script (depth : Nat) : Nat → List Token → List Command × Option Fault
  | 0, _ => ([], none)
  | fuel + 1, tokens =>
    match skipLines tokens with
    | [] => ([], none)
    | .ending _ :: _ => ([], none)
    | tokens =>
      match line depth (tokens.length + 1) tokens with
      | .ok (found, rest) =>
        let (more, fault) := script depth fuel rest
        (found ++ more, fault)
      | .error fault => ([], some fault)

def parse (text : List Char) : List Command × Option Fault :=
  let tokens := tokens text
  script (8 * tokens.length + 8) (tokens.length + 1) tokens

end LanguageServer.Shell
