import LanguageServer.Diagnostic
import LanguageServer.Path
import LanguageServer.Symbol.Answer
import LanguageServer.Text.Duration

/-! Calls of the compiler: how it is called, how a call can end and what its output means. -/

namespace LanguageServer.Compiler

/-- What a compiler that has come to its end wrote. One that was killed has no exit code; no exit
code ever counts as a failure. -/
structure Output where
  stdout : String
  stderr : String
  exitCode : Option Int := some 0
  deriving DecidableEq, Repr

/-- Why a call has no output. -/
inductive Fault
  /-- The compiler did not start. -/
  | spawn (reason : String)
  /-- The compiler did not end in time. -/
  | timeout (nanoseconds : Nat)
  deriving DecidableEq, Repr

def Fault.message (executable : Path) : Fault → String
  | .spawn reason => "failed to run " ++ executable ++ ": " ++ reason
  | .timeout nanoseconds => executable ++ " did not finish within " ++ Text.duration nanoseconds

def Fault.code : Fault → String
  | .spawn _ => Symbol.Failure.spawnCode
  | .timeout _ => Symbol.Failure.timeoutCode

def Fault.failure (executable : Path) (fault : Fault) : Symbol.Failure :=
  ⟨fault.code, fault.message executable⟩

abbrev Ending := Except Fault Output

def checkArguments (file : Path) : List String :=
  ["--no-execute", file]

/-- How the compiler is asked about a place in a file. Lines count from one, columns from zero. -/
def queryArguments (file : Path) (line column : Nat) : List String :=
  ["--lsp-info", file, toString line, toString column]

/-- What a check found. The compiler reports on its error stream. -/
def diagnostics : Ending → Except Fault (List Diagnostic)
  | .ok output => .ok (Diagnostic.ofReport output.stderr.toList)
  | .error fault => .error fault

/-- The answer to a question. The compiler answers on its output stream. -/
def symbol (executable : Path) : Ending → Except Symbol.Failure Symbol
  | .ok output => Symbol.ofOutput output.stdout.toList
  | .error fault => .error (fault.failure executable)

end LanguageServer.Compiler
