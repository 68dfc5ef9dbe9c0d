import LanguageServer.Path

/-! The arguments that the server is started with. -/

namespace LanguageServer.CommandLine

structure Options where
  /-- Whether to talk over the standard streams. -/
  stdio : Bool := false
  debug : Bool := false
  compilerPath : Option Path := none
  /-- How long a document has to be at rest before it is checked, in milliseconds. -/
  debounce : Nat := 1000
  /-- How long a call of the compiler may take, in milliseconds. -/
  timeout : Nat := 10000
  deriving DecidableEq, Repr

inductive Name
  | stdio
  | debug
  | compilerPath
  | debounce
  | timeout
  | help
  deriving DecidableEq, Repr

def Name.ofText? : String → Option Name
  | "stdio" => some .stdio
  | "debug" => some .debug
  | "compiler-path" => some .compilerPath
  | "debounce-ms" => some .debounce
  | "timeout-ms" => some .timeout
  | "help" => some .help
  | _ => none

def Name.takesValue : Name → Bool
  | .compilerPath | .debounce | .timeout => true
  | .stdio | .debug | .help => false

inductive Misuse
  | unexpected (argument : String)
  /-- A value for an argument that has none. -/
  | needlessValue (argument : String)
  | missingValue (argument : String)
  | badValue (argument value : String)
  | repeated (argument : String)
  deriving DecidableEq, Repr

def Misuse.message : Misuse → String
  | .unexpected argument => "unexpected argument " ++ argument
  | .needlessValue argument => argument ++ " has no value"
  | .missingValue argument => argument ++ " needs a value"
  | .badValue argument value => "bad value " ++ value ++ " for " ++ argument
  | .repeated argument => argument ++ " is given more than once"

inductive Request
  | run (options : Options)
  | help
  deriving DecidableEq, Repr

/-- A number of 64 bits, which may have a plus sign. -/
def number? (text : String) : Option Nat :=
  let digits := match text.toList with
    | '+' :: rest => rest
    | chars => chars
  if digits.isEmpty || !digits.all Char.isDigit then none
  else
    let value := digits.foldl (fun value digit => 10 * value + (digit.toNat - '0'.toNat)) 0
    if value < Nat.pow 2 64 then some value else none

/-- Options with an argument taken into account. -/
def Options.set? (options : Options) (value : String) : Name → Option Options
  | .stdio => some { options with stdio := true }
  | .debug => some { options with debug := true }
  | .compilerPath => if value.isEmpty then none else some { options with compilerPath := some value }
  | .debounce => (number? value).map fun number => { options with debounce := number }
  | .timeout => (number? value).map fun number => { options with timeout := number }
  | .help => some options

/-- What was read of the arguments so far. -/
structure Progress where
  options : Options := {}
  given : List Name := []

/-- Takes an argument with its value. None may be given twice. -/
def Progress.take (progress : Progress) (argument : String) (name : Name) (value : String) :
    Except Misuse Progress :=
  if progress.given.contains name then .error (.repeated argument)
  else
    match progress.options.set? value name with
    | some options => .ok ⟨options, name :: progress.given⟩
    | none => .error (.badValue argument value)

/-- An argument with two dashes: its name, and the value after an equals sign. -/
def long? (argument : String) : Option (String × Option String) :=
  match argument.toList with
  | '-' :: '-' :: rest =>
    let name := rest.takeWhile (· ≠ '=')
    let value := match rest.drop name.length with
      | _ :: value => some (String.ofList value)
      | [] => none
    some (String.ofList name, value)
  | _ => none

/-- Whether an argument cannot be the value of the one before it. -/
def isDashed (argument : String) : Bool :=
  match argument.toList with
  | '-' :: _ :: _ => true
  | _ => false

/-- Reads arguments from left to right; the first that is wrong, or asks for help, decides. -/
def read (progress : Progress) : List String → Except Misuse Request
  | [] => .ok (.run progress.options)
  | "--" :: [] => .ok (.run progress.options)
  | "--" :: argument :: _ => .error (.unexpected argument)
  | argument :: rest =>
    match long? argument with
    | none => if argument.startsWith "-h" then .ok .help else .error (.unexpected argument)
    | some (text, attached) =>
      match Name.ofText? text with
      | none => .error (.unexpected argument)
      | some name =>
        if name.takesValue then
          match attached, rest with
          | some value, rest => (progress.take argument name value).bind fun progress => read progress rest
          | none, [] => .error (.missingValue argument)
          | none, value :: rest =>
            if isDashed value then .error (.missingValue argument)
            else (progress.take argument name value).bind fun progress => read progress rest
        else if attached.isSome then .error (.needlessValue argument)
        else if name = .help then .ok .help
        else (progress.take argument name "").bind fun progress => read progress rest

def parse (arguments : List String) : Except Misuse Request :=
  read {} arguments

def helpText : String :=
  "Language Server for Volta

Usage: volta-lsp [OPTIONS]

Options:
      --stdio                 Use stdio for communication (required)
      --debug                 Enable debug mode
      --compiler-path <PATH>  Compiler executable, used when the editor does not configure one
      --debounce-ms <MS>      Quiet period after an edit before the document is re-checked [default: 1000]
      --timeout-ms <MS>       Upper bound on a single compiler run [default: 10000]
  -h, --help                  Print help
"

/-- The end of a run that does not become a conversation. -/
structure Farewell where
  exitCode : Nat
  stdout : String := ""
  stderr : String := ""
  deriving DecidableEq, Repr

/-- The options of a conversation, or why there is none. -/
def start (arguments : List String) : Except Farewell Options :=
  match parse arguments with
  | .ok .help => .error { exitCode := 0, stdout := helpText }
  | .ok (.run options) =>
    if options.stdio then .ok options
    else .error { exitCode := 1, stderr := "Error: --stdio flag is required\n" }
  | .error misuse => .error { exitCode := 2, stderr := "error: " ++ misuse.message ++ "\n" }

end LanguageServer.CommandLine
