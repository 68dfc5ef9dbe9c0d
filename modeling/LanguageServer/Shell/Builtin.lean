import LanguageServer.Shell.Format
import LanguageServer.Shell.KillSignal
import LanguageServer.Shell.Parser
import LanguageServer.Shell.Test

/-! Programs that are part of the shell and run no other program. -/

namespace LanguageServer.Shell

/-- The programs whose faults end the script. -/
def specialNames : List String :=
  [":", ".", "break", "continue", "eval", "exec", "exit", "export", "readonly", "return", "set",
   "shift", "times", "trap", "unset"]

/-- The other programs that are part of the shell. -/
def builtinNames : List String :=
  ["[", "alias", "bg", "cd", "command", "echo", "false", "fg", "getopts", "hash", "jobs", "kill",
   "local", "printf", "pwd", "read", "test", "true", "type", "ulimit", "umask", "unalias", "wait"]

namespace State

/-- Reports a fault of a program. Those of some programs end the script. -/
def refuse (state : State) (name text : String) : State :=
  let message := name ++ ": " ++ text
  if specialNames.contains name then state.abort message else state.complain message 2

/-- The first line of the input, and whether the end of the line was there. -/
def takeLine (state : State) : Bytes × Bool × State :=
  let line := state.input.takeWhile (· ≠ 10)
  match state.input.drop line.length with
  | _ :: rest => (line, true, { state with input := rest })
  | [] => (line, false, { state with input := [] })

end State

/-- A line with its backslashes undone. -/
def withoutBackslashes : Bytes → Bytes
  | [] => []
  | [92] => []
  | 92 :: byte :: rest => byte :: withoutBackslashes rest
  | byte :: rest => byte :: withoutBackslashes rest

/-- Gives the words of a line to variables; the last one gets all that is left. -/
def distribute (separators : Bytes) (state : State) : List String → Bytes → State
  | [], _ => state
  | [name], line =>
    let isSeparator (byte : UInt8) : Bool := separators.contains byte
    let line := line.dropWhile isSeparator
    state.assign name (line.reverse.dropWhile isSeparator).reverse
  | name :: names, line =>
    let isSeparator (byte : UInt8) : Bool := separators.contains byte
    let line := line.dropWhile isSeparator
    let word := line.takeWhile (!isSeparator ·)
    distribute separators (state.assign name word) names (line.drop (word.length + 1))

/-- Reads a line into variables. It fails if the input ends before the line does. -/
def readLine (state : State) (arguments : List Bytes) : State :=
  let raw := arguments.head? == some (bytesOf "-r")
  let names := (if raw then arguments.tail else arguments).map Text.ofUtf8
  if names.isEmpty then state.refuse "read" "arg count"
  else
    let (line, complete, state) := state.takeLine
    let line := if raw then line else withoutBackslashes line
    (distribute state.separators state names line).done (if complete then 0 else 1)

/-- Writes arguments in a format. -/
def print (state : State) (arguments : List Bytes) : State :=
  let usage := "usage: printf format [arg ...]"
  let run (format : Bytes) (values : List Bytes) : State :=
    let printing := formatted (values.length + 1) format { arguments := values }
    let state := state.write printing.bytes.reverse
    (printing.complaints.foldl (fun state text => state.complain ("printf: " ++ text) 1) state).done
      printing.status
  match arguments with
  | [] => state.refuse "printf" usage
  | format :: values =>
    match format with
    | [45, 45] =>
      match values with
      | format :: values => run format values
      | [] => state.refuse "printf" usage
    | 45 :: letter :: _ => state.refuse "printf" ("Illegal option -" ++ Text.ofUtf8 [letter])
    | _ => run format values

/-- Sends the shell itself a signal. -/
def strike (state : State) (number : Nat) : State :=
  let provision := (signalName? number).bind state.traps.get?
  match provision, consequence number with
  | _, .nothing => state.done 0
  | some action, .death =>
    if number = 9 then { state with signal := .killed 9 }
    else if action.isEmpty then state.done 0
    else { state.done 0 with pending := state.pending ++ [action] }
  | none, .death => { state with signal := .killed number }
  | _, .stop => { state with signal := .endless }

/-- Sends signals to processes, of which only the shell itself is there. -/
def kill (state : State) (arguments : List Bytes) : State :=
  let usage := "Usage: kill [-s sigspec | -signum | -sigspec] [pid | job]... or\nkill -l [exitstatus]"
  let send (number : Nat) (targets : List String) : State :=
    if targets.isEmpty then state.refuse "kill" usage
    else
      targets.foldl (fun state target =>
        match target.toNat? with
        | some process =>
          if process = state.process then strike state number
          else (state.complain "kill: No such process\n" 1)
        | none => state.refuse "kill" ("Illegal number: " ++ target)) (state.done 0)
  match arguments.map Text.ofUtf8 with
  | "-l" :: number :: _ =>
    match number.toNat?.bind signalName? with
    | some name => (state.write (bytesOf (name ++ "\n"))).done 0
    | none => state.refuse "kill" ("invalid signal number or name: " ++ number)
  | "-s" :: name :: targets =>
    match signalNumber? name with
    | some number => send number targets
    | none => state.refuse "kill" ("invalid signal number or name: " ++ name)
  | first :: targets =>
    match first.toList with
    | '-' :: c :: rest =>
      match signalNumber? (String.ofList (c :: rest)) with
      | some number => send number targets
      | none => state.refuse "kill" ("Illegal option -" ++ String.ofList [c])
    | _ => send 15 (first :: targets)
  | [] => state.refuse "kill" usage

/-- Makes provision for signals. -/
def trap (state : State) (arguments : List Bytes) : State :=
  match arguments with
  | action :: names =>
    names.foldl (fun state text =>
      match signalNumber? (Text.ofUtf8 text) |>.bind signalName? with
      | some name =>
        if action == bytesOf "-" then { state with traps := state.traps.erase name }
        else { state with traps := state.traps.put name action }
      | none => state.complain ("trap: " ++ Text.ofUtf8 text ++ ": bad trap") 1) (state.done 0)
  | [] => state.done 0

def test (state : State) (name : String) (arguments : List Bytes) : State :=
  match holds state arguments with
  | .ok true => state.done 0
  | .ok false => state.done 1
  | .error fault => state.refuse name fault.message

/-- The number that an argument is which has no sign. -/
def count? (argument : Bytes) : Option Nat :=
  match integer? argument with
  | some value => if 0 ≤ value then some value.toNat else none
  | none => none

/-- Does something with the number that is the first argument, or another one if there is none. -/
def withCount (state : State) (name : String) (arguments : List Bytes) (standard : Nat)
    (next : Nat → State) : State :=
  match arguments with
  | [] => next standard
  | argument :: _ =>
    match count? argument with
    | some value => next value
    | none => state.refuse name ("Illegal number: " ++ Text.ofUtf8 argument)

/-- Does something that is about a loop. Outside of loops nothing happens. -/
def fromLoop (state : State) (next : State → State) : State :=
  if state.loops = 0 then state.done 0 else next (state.done 0)

/-- A name and the value after an equals sign. -/
def definition (argument : Bytes) : String × Option Bytes :=
  let name := argument.takeWhile (· ≠ 61)
  let value := match argument.drop name.length with
    | _ :: value => some value
    | [] => none
  (Text.ofUtf8 name, value)

def define (state : State) (argument : Bytes) : String × State :=
  match definition argument with
  | (name, some value) => (name, state.assign name value)
  | (name, none) => (name, state)

/-- Makes a variable one of the function that runs. -/
def localize (state : State) (argument : Bytes) : State :=
  let (name, _) := definition argument
  let before := state.bindings.get? name
  let (_, state) := define state argument
  { state with locals := state.locals.map ((name, before) :: ·) }

/-- Sets the flags and the arguments of the shell. -/
def setFlags (state : State) : List Bytes → State
  | [] => state.done 0
  | argument :: rest =>
    match Text.ofUtf8 argument with
    | "--" => { state with arguments := rest }.done 0
    | "-e" => setFlags { state with strict := true } rest
    | "+e" => setFlags { state with strict := false } rest
    | "-u" => setFlags { state with demanding := true } rest
    | "+u" => setFlags { state with demanding := false } rest
    | "-eu" => setFlags { state with strict := true, demanding := true } rest
    | text =>
      if text.startsWith "-" || text.startsWith "+" then setFlags state rest
      else { state with arguments := argument :: rest }.done 0

def workingDirectory (state : State) : String :=
  "/" ++ String.intercalate "/" state.directory

def changeDirectory (state : State) (path : Path) : State :=
  let found := state.tree.walk (if path.isAbsolute then [] else state.directory)
    (FileTree.names path)
  match found, state.tree.lookup state.directory path with
  | .ok place, .ok .directory => { state with directory := place }.done 0
  | _, _ => state.refuse "cd" ("can't cd to " ++ path)

/-- What a program that is part of the shell does, if there is one with a name. -/
def builtin? (state : State) (name : String) (arguments : List Bytes) : Option State :=
  match name with
  | ":" | "true" | "ulimit" | "times" | "hash" | "alias" | "unalias" | "jobs" => some (state.done 0)
  | "false" => some (state.done 1)
  | "echo" => some ((state.write (echoed arguments)).done 0)
  | "printf" => some (print state arguments)
  | "read" => some (readLine state arguments)
  | "test" => some (test state name arguments)
  | "[" =>
    if arguments.getLast? == some (bytesOf "]") then some (test state name arguments.dropLast)
    else some (state.refuse name "missing ]")
  | "exit" =>
    some (withCount state name arguments state.status fun status =>
      { state.done (status % 256) with signal := .exit })
  | "return" =>
    some (withCount state name arguments state.status fun status =>
      { state.done (status % 256) with signal := .back })
  | "break" =>
    some (withCount state name arguments 1 fun count =>
      fromLoop state fun state => { state with signal := .leave (min count state.loops - 1) })
  | "continue" =>
    some (withCount state name arguments 1 fun count =>
      fromLoop state fun state => { state with signal := .next (min count state.loops - 1) })
  | "shift" =>
    some (withCount state name arguments 1 fun count =>
      if state.arguments.length < count then state.refuse name "can't shift that many"
      else { state with arguments := state.arguments.drop count }.done 0)
  | "kill" => some (kill state arguments)
  | "trap" => some (trap state arguments)
  | "set" => some (setFlags state arguments)
  | "unset" =>
    some (arguments.foldl (fun state argument =>
      let name := Text.ofUtf8 argument
      { state with
        bindings := state.bindings.erase name
        functions := state.functions.erase name }) (state.done 0))
  | "export" =>
    some (arguments.foldl (fun state argument =>
      let (name, state) := define state argument
      { state with exports := name :: state.exports }) (state.done 0))
  | "readonly" =>
    some (arguments.foldl (fun state argument => (define state argument).2) (state.done 0))
  | "local" =>
    if state.locals.isNone then some (state.abort "local: not in a function")
    else some (arguments.foldl localize (state.done 0))
  | "cd" =>
    match arguments with
    | path :: _ => some (changeDirectory state (Text.ofUtf8 path))
    | [] => some (state.done 0)
  | "pwd" => some ((state.write (bytesOf (workingDirectory state ++ "\n"))).done 0)
  | "umask" =>
    if arguments.isEmpty then some ((state.write (bytesOf "0022\n")).done 0)
    else some (state.done 0)
  | _ => none

end LanguageServer.Shell
