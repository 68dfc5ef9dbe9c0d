import LanguageServer.Files.Tree
import LanguageServer.Shell.Syntax
import LanguageServer.Table
import LanguageServer.Text.Utf8

/-! What a shell knows while it runs a script. -/

namespace LanguageServer.Shell

/-- A value of a script. -/
abbrev Bytes := List UInt8

def bytesOf (text : String) : Bytes :=
  Text.toUtf8 text.toList

inductive Sink
  | stdout
  | stderr
  /-- To the one who asked for the output of a part of the script. -/
  | capture
  | nowhere
  | file (path : Path)
  deriving DecidableEq, Repr

/-- Whether and how the run of a script comes to an end. -/
inductive Signal
  | none
  /-- The script has ended itself. -/
  | exit
  /-- A function has ended itself. -/
  | back
  /-- The shell has been killed by a signal with a number. -/
  | killed (number : Nat)
  /-- Something goes on for longer than anyone waits. -/
  | endless
  /-- A loop is left, after so many that surround it. -/
  | leave (loops : Nat)
  /-- A loop goes on with its next round, after so many that are left. -/
  | next (loops : Nat)
  deriving DecidableEq, Repr

/-- Something that runs beside the script. -/
structure Companion where
  start : Nat
  command : Command

structure State where
  /-- What the shell was called as. -/
  name : String
  /-- The number of the shell among all processes. -/
  process : Nat := 4242
  arguments : List Bytes := []
  bindings : Table String Bytes := ∅
  /-- The variables that programs find too. -/
  exports : List String := []
  functions : Table String Command := ∅
  /-- In a function, the variables that get their values back after it. -/
  locals : Option (List (String × Option Bytes)) := none
  /-- How many loops there are around the present command. -/
  loops : Nat := 0
  /-- What to do about signals, and at the end. -/
  traps : Table String Bytes := ∅
  /-- What to do next about signals that came. -/
  pending : List Bytes := []
  /-- The line of the present command. -/
  line : Nat := 1
  /-- How the last command ended. -/
  status : Nat := 0
  /-- How the last command ended that was run for its output, in the present command. -/
  substituted : Option Nat := none
  /-- Whether the script ends when a command fails. -/
  strict : Bool := false
  /-- Whether a parameter has to have a value. -/
  demanding : Bool := false
  /-- Whether someone looks at how the present command ends. -/
  tested : Bool := false
  /-- What is left of the input. -/
  input : Bytes := []
  /-- Where the streams go. -/
  streams : Table Nat Sink := ⟨[(1, .stdout), (2, .stderr)]⟩
  stdout : ByteArray := .empty
  stderr : ByteArray := .empty
  captured : ByteArray := .empty
  companions : List Companion := []
  /-- The time that has passed, in milliseconds. -/
  time : Nat := 0
  signal : Signal := .none
  tree : FileTree := {}
  /-- The current directory. -/
  directory : List String := []

namespace State

def sink (state : State) (descriptor : Nat) : Sink :=
  (state.streams.get? descriptor).getD .nowhere

def appended (array : ByteArray) (bytes : Bytes) : ByteArray :=
  bytes.foldl ByteArray.push array

/-- The place that a path leads to. -/
def place (state : State) (path : Path) : List String :=
  let names := (FileTree.names path).filter fun name => name != "" && name != "."
  if path.isAbsolute then names else state.directory ++ names

def emit (state : State) (sink : Sink) (bytes : Bytes) : State :=
  match sink with
  | .stdout => { state with stdout := appended state.stdout bytes }
  | .stderr => { state with stderr := appended state.stderr bytes }
  | .capture => { state with captured := appended state.captured bytes }
  | .nowhere => state
  | .file path =>
    let place := state.place path
    let old := match state.tree.node? place with
      | some (.file _ text) => text
      | _ => ""
    { state with tree := state.tree.put place (.file false (old ++ Text.ofUtf8 bytes)) }

def write (state : State) (bytes : Bytes) : State :=
  state.emit (state.sink 1) bytes

/-- Writes a line to the error stream. -/
def report (state : State) (text : String) : State :=
  state.emit (state.sink 2) (bytesOf (text ++ "\n"))

/-- Ends a command. -/
def done (state : State) (status : Nat) : State :=
  { state with status := status }

/-- Reports a fault on the present line of the script. -/
def complain (state : State) (text : String) (status : Nat) : State :=
  (state.report (state.name ++ ": " ++ toString state.line ++ ": " ++ text)).done status

/-- Reports a fault on the present line of the script and ends the script. -/
def abort (state : State) (text : String) : State :=
  { state.complain text 2 with signal := .exit }

/-- The value of a parameter that is one text. -/
def value? (state : State) : Parameter → Option Bytes
  | .variable name => state.bindings.get? name
  | .argument 0 => some (bytesOf state.name)
  | .argument (number + 1) => state.arguments[number]?
  | .arguments => none
  | .joined => some (List.intercalate [32] state.arguments)
  | .count => some (bytesOf (toString state.arguments.length))
  | .status => some (bytesOf (toString state.status))
  | .process => some (bytesOf (toString state.process))
  | .flags => some []
  | .background => if state.companions.isEmpty then none else some (bytesOf (toString (state.process + 1)))

def assign (state : State) (name : String) (value : Bytes) : State :=
  { state with bindings := state.bindings.put name value }

/-- The characters at which values are split. -/
def separators (state : State) : Bytes :=
  (state.bindings.get? "IFS").getD [32, 9, 10]

/-- The variables that programs find. -/
def inherited (state : State) : Table String Bytes :=
  ⟨state.bindings.entries.filter fun (name, _) => state.exports.contains name⟩

end State

end LanguageServer.Shell
