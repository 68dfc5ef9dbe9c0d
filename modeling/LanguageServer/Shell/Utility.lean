import LanguageServer.Shell.Builtin

/-! Programs of the system that work on texts. -/

namespace LanguageServer.Shell

/-- The milliseconds that a duration in seconds means. -/
def pause? (argument : Bytes) : Option Nat :=
  let text := (Text.ofUtf8 argument).toList
  let whole := text.takeWhile Char.isDigit
  let rest := text.drop whole.length
  let part := match rest with
    | '.' :: digits => digits.takeWhile Char.isDigit
    | _ => []
  let after := match rest with
    | '.' :: digits => digits.dropWhile Char.isDigit
    | _ => rest
  let factor? : Option Nat := match after with
    | [] => some 1
    | ['s'] => some 1
    | ['m'] => some 60
    | ['h'] => some 3600
    | _ => none
  if whole.isEmpty && part.isEmpty then none
  else
    factor?.map fun factor =>
      factor * (1000 * numberIn 10 whole + numberIn 10 ((part ++ ['0', '0', '0']).take 3))

def sleep (state : State) (arguments : List Bytes) : State :=
  let hint := "\nTry 'sleep --help' for more information."
  match arguments.find? fun argument => (pause? argument).isNone with
  | some argument =>
    (state.report ("sleep: invalid time interval '" ++ Text.ofUtf8 argument ++ "'" ++ hint)).done 1
  | none =>
    if arguments.isEmpty then (state.report ("sleep: missing operand" ++ hint)).done 1
    else { state with time := state.time + (arguments.filterMap pause?).foldl (· + ·) 0 }.done 0

/-- What a program reads from a path: the input, or a file. -/
def contents (state : State) (path : Path) : Except String Bytes :=
  if path == "-" || path == "/dev/stdin" then .ok state.input
  else if path == "/dev/null" then .ok []
  else
    match state.tree.lookup state.directory path with
    | .ok (.file _ text) => .ok (bytesOf text)
    | .ok .directory => .error "Is a directory"
    | .error .missing => .error "No such file or directory"
    | .error .notDirectory => .error "Not a directory"

def concatenate (state : State) (arguments : List Bytes) : State :=
  let paths := if arguments.isEmpty then ["-"] else arguments.map Text.ofUtf8
  paths.foldl (fun state path =>
    match contents state path with
    | .ok bytes =>
      let state := state.write bytes
      if path == "-" then { state with input := [] } else state
    | .error reason => (state.report ("cat: " ++ path ++ ": " ++ reason)).done 1) (state.done 0)

/-- How many bytes the first lines of a text have. -/
def linesLength : Nat → Nat → Bytes → Nat
  | _, length, [] => length
  | 0, length, _ => length
  | count + 1, length, byte :: rest =>
    linesLength (if byte == 10 then count else count + 1) (length + 1) rest

/-- A part of the input or of a file: so many bytes or lines at its start. -/
def front (state : State) (arguments : List Bytes) : State :=
  let (flag, number, paths) := match arguments.map Text.ofUtf8 with
    | "-c" :: number :: paths => ("-c", number.toNat?.getD 0, paths)
    | "-n" :: number :: paths => ("-n", number.toNat?.getD 0, paths)
    | paths =>
      match paths with
      | first :: rest =>
        match first.toList with
        | '-' :: 'n' :: digits => ("-n", numberIn 10 digits, rest)
        | '-' :: 'c' :: digits => ("-c", numberIn 10 digits, rest)
        | '-' :: digits => ("-n", numberIn 10 digits, rest)
        | _ => ("-n", 10, paths)
      | [] => ("-n", 10, [])
  let path := paths.head?.getD "-"
  if path == "/dev/zero" then (state.write (List.replicate number 0)).done 0
  else
    match contents state path with
    | .ok bytes =>
      let length := if flag == "-c" then number else linesLength number 0 bytes
      let state := state.write (bytes.take length)
      { state with input := if path == "-" then bytes.drop length else state.input }.done 0
    | .error reason =>
      (state.report ("head: cannot open '" ++ path ++ "' for reading: " ++ reason)).done 1

/-- Numbers from one to another. -/
def enumerate (state : State) (arguments : List Bytes) : State :=
  let write (first step last : Int) : State :=
    let count := if step == 0 then 0 else ((last - first) / step + 1).toNat
    let numbers := (List.range count).map fun (index : Nat) => first + step * (index : Int)
    (state.write (numbers.flatMap fun number => bytesOf (toString number ++ "\n"))).done 0
  match arguments.map numberOf with
  | [last] => write 1 1 last
  | [first, last] => write first 1 last
  | [first, step, last] => write first step last
  | _ => state.done 1

/-- The bytes that a set of characters means, after so many that are left out. -/
def characters : (skip : Nat) → Bytes → Bytes
  | _, [] => []
  | skip + 1, _ :: rest => characters skip rest
  | 0, 92 :: rest =>
    let (found, after) := formatEscape rest
    found ++ characters (rest.length - after.length) rest
  | 0, low :: rest =>
    match rest with
    | 45 :: high :: _ =>
      (List.range (high.toNat + 1 - low.toNat)).map (fun index => UInt8.ofNat (low.toNat + index))
        ++ characters 2 rest
    | _ => low :: characters 0 rest

/-- Replaces or removes characters of the input. -/
def transliterate (state : State) (arguments : List Bytes) : State :=
  let give (bytes : Bytes) : State := { state.write bytes with input := [] }.done 0
  match arguments with
  | [first, second] =>
    if first == bytesOf "-d" then
      let removed := characters 0 second
      give (state.input.filter (!removed.contains ·))
    else
      let sources := characters 0 first
      let targets := characters 0 second
      give (state.input.map fun byte =>
        match sources.findIdx? (· == byte) with
        | some index => (targets[index]?).getD (targets.getLast?.getD byte)
        | none => byte)
  | _ => state.done 1

def countWords (bytes : Bytes) : Nat :=
  (bytes.foldl (fun (count, inside) byte =>
    if byte ∈ [32, 9, 10, 11, 12, 13] then (count, false)
    else if inside then (count, true) else (count + 1, true)) (0, false)).1

/-- Counts the bytes, lines or words of the input. -/
def measure (state : State) (arguments : List Bytes) : State :=
  let tell (number : Nat) : State :=
    { state.write (bytesOf (toString number ++ "\n")) with input := [] }.done 0
  let lines := state.input.count 10
  match arguments.map Text.ofUtf8 with
  | ["-c"] => tell state.input.length
  | ["-l"] => tell lines
  | ["-w"] => tell (countWords state.input)
  | [] =>
    let column (number : Nat) : String :=
      let digits := toString number
      String.ofList (List.replicate (7 - digits.length) ' ') ++ digits
    let text := column lines ++ " " ++ column (countWords state.input) ++ " "
      ++ column state.input.length ++ "\n"
    { state.write (bytesOf text) with input := [] }.done 0
  | _ => state.done 1

/-- Writes a line again and again. -/
def repeatLine (state : State) (arguments : List Bytes) : State :=
  let line := if arguments.isEmpty then [121] else List.intercalate [32] arguments
  let times := 2000000 / (line.length + 1) + 1
  { state.write (List.replicate times (line ++ [10])).flatten with signal := .endless }

/-- Writes arguments. The flags say that the line is not ended, and that escapes are replaced. -/
def echoPlain (arguments : List Bytes) : Bytes :=
  let isFlag (argument : Bytes) : Bool :=
    match argument with
    | 45 :: letter :: rest => (letter :: rest).all fun byte => byte ∈ [110, 101, 69]
    | _ => false
  let flags := (arguments.takeWhile isFlag).flatMap List.tail
  let text := List.intercalate [32] (arguments.dropWhile isFlag)
  let (text, stop) := if flags.contains 101 then unescaped 0 text else (text, false)
  if flags.contains 110 || stop then text else text ++ [10]

def systemDirectories : List String :=
  ["/bin", "/usr/bin"]

def systemPrograms : List String :=
  ["cat", "echo", "false", "head", "kill", "printf", "pwd", "seq", "sleep", "test", "tr", "true", "wc",
   "yes"]

def runSystem (state : State) (name : String) (arguments : List Bytes) : State :=
  match name with
  | "cat" => concatenate state arguments
  | "head" => front state arguments
  | "seq" => enumerate state arguments
  | "sleep" => sleep state arguments
  | "tr" => transliterate state arguments
  | "wc" => measure state arguments
  | "yes" => repeatLine state arguments
  | "echo" => (state.write (echoPlain arguments)).done 0
  | _ => (builtin? state name arguments).getD (state.done 127)

end LanguageServer.Shell
