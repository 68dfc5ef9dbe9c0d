import LanguageServer.Compiler
import LanguageServer.Json.Value
import LanguageServer.Table
import LanguageServer.Uri.Basic

/-! Compilers and editors that follow a script. -/

namespace LanguageServer.Scenario

/-- How a scripted call of the compiler goes. -/
structure Performance where
  stdout : String := ""
  stderr : String := ""
  /-- How long the call takes, in milliseconds. -/
  delay : Nat := 0
  fault : Option Compiler.Fault := none

/-- A text with every occurrence of another replaced, after so many characters that are left out. -/
def replaced (pattern replacement : List Char) : Nat → List Char → List Char
  | _, [] => []
  | skip + 1, _ :: rest => replaced pattern replacement skip rest
  | 0, c :: rest =>
    if pattern.isPrefixOf (c :: rest) then
      replacement ++ replaced pattern replacement (pattern.length - 1) rest
    else
      c :: replaced pattern replacement 0 rest

/-- How a scripted call ends. Its output may name the file that it was called with. -/
def Performance.ending (performance : Performance) (file : String) : Compiler.Ending :=
  match performance.fault with
  | some fault => .error fault
  | none =>
    let fill (text : String) : String :=
      String.ofList (replaced "@FILE@".toList file.toList 0 text.toList)
    .ok { stdout := fill performance.stdout, stderr := fill performance.stderr }

/-- A performance for calls of a kind. -/
structure Rule where
  /-- What the file has to contain. -/
  contains : String := ""
  /-- What the first argument has to be. -/
  mode : Option String := none
  performance : Performance := {}

/-- A compiler that follows the first rule that applies, or else a general one. -/
structure ScriptedCompiler where
  rules : List Rule := []
  otherwise : Performance := {}

def occurs (part text : List Char) : Bool :=
  match text with
  | [] => part.isEmpty
  | c :: rest => part.isPrefixOf (c :: rest) || occurs part rest

def Rule.applies (rule : Rule) (arguments : List String) (contents : String) : Bool :=
  occurs rule.contains.toList contents.toList &&
    match rule.mode with
    | some mode => arguments.head? == some mode
    | none => true

def ScriptedCompiler.perform (compiler : ScriptedCompiler) (arguments : List String)
    (contents : String) : Performance :=
  match compiler.rules.find? (·.applies arguments contents) with
  | some rule => rule.performance
  | none => compiler.otherwise

/-- How a compiler behaves: how long a call takes that begins at a time, and how it ends. -/
structure Behaviour where
  call (now : Nat) (executable : Path) (arguments : List String) (contents : String) :
    Nat × Compiler.Ending

/-- A scripted compiler does the same at all times. -/
def ScriptedCompiler.behaviour (compiler : ScriptedCompiler) : Behaviour where
  call _ _ arguments contents :=
    let performance := compiler.perform arguments contents
    (performance.delay, performance.ending ((arguments[1]?).getD ""))

instance : Coe ScriptedCompiler Behaviour := ⟨ScriptedCompiler.behaviour⟩

/-- How an editor treats requests. -/
inductive Manner
  /-- It answers them. -/
  | answers
  /-- It has an empty answer to a request for settings. -/
  | empty
  /-- It refuses them. -/
  | refuses
  deriving DecidableEq, Repr

/-- An editor with fixed answers to requests for settings. -/
structure ScriptedEditor where
  general : Option Json := none
  scopes : List (String × Json) := []
  /-- How long an answer takes, in milliseconds. -/
  delay : Nat := 0
  manner : Manner := .answers

/-- The settings that an editor has for a document, or those for none. -/
def ScriptedEditor.settings? (editor : ScriptedEditor) (scope : Option Uri) : Option Json :=
  let own := scope.bind fun uri => (editor.scopes.find? (·.1 == uri.text)).map (·.2)
  own.or editor.general

/-- How an editor behaves: how long it takes to answer a request for settings that is made at a time,
and what it has for it. -/
structure Editor where
  settings (now : Nat) (scope : Option Uri) : Nat × Option Json
  /-- How long an answer to anything else takes. -/
  delay : Nat
  manner : Manner

/-- A scripted editor does the same at all times. -/
def ScriptedEditor.behaviour (editor : ScriptedEditor) : Editor where
  settings _ scope := (editor.delay, editor.settings? scope)
  delay := editor.delay
  manner := editor.manner

instance : Coe ScriptedEditor Editor := ⟨ScriptedEditor.behaviour⟩

end LanguageServer.Scenario
