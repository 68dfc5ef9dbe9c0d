/-! Shell scripts. A compiler, or what stands for one, can be a script, and then what a session makes
of it depends on what the script writes, how it ends and how long it takes. The shell is here so that
such compilers can be run (`Launcher`). No result depends on it: all that is proved about sessions
holds for compilers of any kind. -/

namespace LanguageServer.Shell

/-- What a script can refer to. -/
inductive Parameter
  | variable (name : String)
  /-- An argument; that with number zero is the name of the script. -/
  | argument (number : Nat)
  /-- All arguments, each by itself. -/
  | arguments
  /-- All arguments in one. -/
  | joined
  | count
  | status
  | process
  /-- The flags of the shell, of which there are none. -/
  | flags
  /-- The last command that was started in the background. -/
  | background
  deriving DecidableEq, Repr

/-- What to do with the value of a parameter and a word. -/
inductive Adjustment
  /-- The word instead, if there is no value. -/
  | fallback
  /-- The same, and the parameter gets the word as its value. -/
  | assign
  /-- The word instead, if there is a value. -/
  | alternative
  /-- The end of the script with the word as a message, if there is no value. -/
  | demand
  /-- The value without a part at its start or end that the word describes. -/
  | trim (atEnd longest : Bool)
  deriving DecidableEq, Repr

/-- What a part of a word stands for. Scripts inside words are read when they are run. -/
inductive Meaning
  | text (chars : List Char)
  | value (parameter : Parameter)
  | length (parameter : Parameter)
  /-- A parameter adjusted with a word. Perhaps an empty value counts as none. -/
  | adjusted (parameter : Parameter) (adjustment : Adjustment) (orEmpty : Bool) (word : List Char)
  | arithmetic (source : List Char)
  | output (source : List Char)
  /-- Braces that mean nothing. -/
  | nonsense
  deriving DecidableEq, Repr

/-- A part of a word. What is quoted is not split. -/
structure Piece where
  quoted : Bool
  meaning : Meaning
  deriving DecidableEq, Repr

abbrev Word := List Piece

/-- How a redirection uses its word. -/
inductive Mode
  | read
  | write
  | append
  | duplicate
  /-- The word itself is the input. -/
  | document
  deriving DecidableEq, Repr

/-- Where a stream goes or comes from. -/
structure Redirection where
  descriptor : Nat
  mode : Mode
  word : Word
  deriving DecidableEq, Repr

inductive Command
  /-- A program with its arguments, after assignments, on a line of the script. -/
  | simple (line : Nat) (assignments : List (String × Word)) (words : List Word)
      (redirections : List Redirection)
  | sequence (commands : List Command)
  | pipe (left right : Command)
  | both (left right : Command)
  | either (left right : Command)
  | negation (command : Command)
  | branch (condition yes no : Command)
  /-- Repeats a command as long as a condition succeeds, or as long as it fails. -/
  | loop (succeeds : Bool) (condition body : Command)
  | each (name : String) (words : Option (List Word)) (body : Command)
  /-- The first of some commands with a pattern that fits a word. -/
  | choice (word : Word) (clauses : List (List Word × Command))
  | function (name : String) (body : Command)
  | subshell (body : Command)
  | background (body : Command)
  | redirected (line : Nat) (body : Command) (redirections : List Redirection)

/-- A token of a script, on a line. -/
inductive Token
  | word (line : Nat) (word : Word)
  | operator (line : Nat) (text : String)
  | redirection (line : Nat) (descriptor : Nat) (mode : Mode)
  /-- A redirection whose word has been read elsewhere. -/
  | document (line : Nat) (descriptor : Nat) (word : Word)
  /-- A place where the text cannot be cut into tokens. -/
  | fault (line : Nat) (message : String)
  | ending (line : Nat)
  deriving DecidableEq, Repr

/-- Why a script cannot be read. -/
structure Fault where
  line : Nat
  message : String
  deriving DecidableEq, Repr

end LanguageServer.Shell
