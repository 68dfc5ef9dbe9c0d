import LanguageServer.Shell.Field
import LanguageServer.Shell.Program

/-! Running shell scripts. -/

namespace LanguageServer.Shell

/-- Repeats something until it wants no more, but only so often. Then it still wants more. -/
def iterate (once : α → α × Bool) : Nat → α → α × Bool
  | 0, state => (state, true)
  | count + 1, state =>
    match once state with
    | (state, true) => iterate once count state
    | (state, false) => (state, false)

/-- How often a loop is repeated at most. -/
def patience : Nat := 200000

/-- What a round of a loop means for the loop: its state, and whether it goes on. -/
def afterRound (state : State) : State × Bool :=
  match state.signal with
  | .none => (state, true)
  | .leave 0 => ({ state with signal := .none }, false)
  | .leave (count + 1) => ({ state with signal := .leave count }, false)
  | .next 0 => ({ state with signal := .none }, true)
  | .next (count + 1) => ({ state with signal := .next count }, false)
  | _ => (state, false)

/-- A state after a part of the script that has a shell of its own. Of that shell only what it wrote
remains, and that it was killed or does not end. -/
def contained (before after : State) : State :=
  let signal := match after.signal with
    | .killed number => Signal.killed number
    | .endless => .endless
    | _ => before.signal
  { before with
    signal := signal
    status := after.status
    input := after.input
    stdout := after.stdout
    stderr := after.stderr
    captured := after.captured
    time := after.time
    tree := after.tree }

/-- The state of a shell that runs a part of the script. -/
def ownShell (state : State) : State :=
  { state with
    companions := []
    traps := ⟨state.traps.entries.filter fun (_, action) => action.isEmpty⟩ }

/-- A state after a program that the script waited for. If it was killed the shell says so. -/
def survived (before after : State) : State :=
  match after.signal with
  | .killed number =>
    let state := { contained before { after with signal := .none } with status := 128 + number }
    match obituary? number with
    | some text => state.report text
    | none => state
  | _ => contained before after

/-- A state after a command whose failure may end the script. -/
def checked (state : State) : State :=
  if state.strict && !state.tested && state.status != 0 && state.signal == .none then
    { state with signal := .exit }
  else state

/-- Bytes without the ends of lines at their end. -/
def chomped (bytes : Bytes) : Bytes :=
  (bytes.reverse.dropWhile (· == 10)).reverse

def Parameter.title : Parameter → String
  | .variable name => name
  | .argument number => toString number
  | .arguments => "@"
  | .joined => "*"
  | .count => "#"
  | .status => "?"
  | .process => "$"
  | .flags => "-"
  | .background => "!"

/-- The sink that a path means. -/
def sinkAt (state : State) (path : Path) : Sink :=
  match path with
  | "/dev/null" => .nowhere
  | "/dev/stdout" => state.sink 1
  | "/dev/stderr" => state.sink 2
  | _ => .file path

/-- Why a file cannot be written to. -/
def writeObstacle? (state : State) (path : Path) : Option String :=
  let place := state.place path
  match state.tree.node? place, state.tree.node? place.dropLast with
  | some .directory, _ => some "Is a directory"
  | some (.file ..), _ => none
  | none, some .directory => none
  | none, _ => some "Directory nonexistent"

/-- A state with a stream that goes somewhere else, if that can be. -/
def redirect (state : State) (descriptor : Nat) (mode : Mode) (word : Bytes) :
    Except State State :=
  let path := Text.ofUtf8 word
  let give (state : State) (sink : Sink) : State :=
    { state with streams := state.streams.put descriptor sink }
  let openFile (empty : Bool) : Except State State :=
    let sink := sinkAt state path
    match sink with
    | .file _ =>
      match writeObstacle? state path with
      | some reason => .error (state.complain ("cannot create " ++ path ++ ": " ++ reason) 2)
      | none =>
        let tree := if empty then state.tree.put (state.place path) (.file false "") else state.tree
        .ok (give { state with tree := tree } sink)
    | _ => .ok (give state sink)
  match mode with
  | .write => openFile true
  | .append => openFile false
  | .document => .ok { state with input := word }
  | .duplicate =>
    if descriptor == 0 then .ok state
    else if path == "-" then .ok { state with streams := state.streams.erase descriptor }
    else
      match path.toNat?.bind state.streams.get? with
      | some sink => .ok (give state sink)
      | none => .error (state.complain (path ++ ": Bad file descriptor") 2)
  | .read =>
    match contents state path with
    | .ok bytes => .ok { state with input := bytes }
    | .error "Is a directory" => .ok { state with input := [] }
    | .error _ => .error (state.complain ("cannot open " ++ path ++ ": No such file") 2)

/-- Gives back the values that variables had before a function. -/
def delocalized (state : State) : State :=
  (state.locals.getD []).foldl (fun state (name, value) =>
    match value with
    | some value => state.assign name value
    | none => { state with bindings := state.bindings.erase name }) state

/-- What the shell says about a program that cannot be run, and how the command ends. -/
def Obstacle.verdict : Obstacle → String × Nat
  | .missing => ("not found", 127)
  | .notDirectory => ("not found", 127)
  | .forbidden => ("Permission denied", 126)
  | .format => ("Exec format error", 126)

mutual

/-- What a piece of a word expands to, where text that is not quoted may be split. The number bounds
the depth. -/
def expandPiece : Nat → (splits : Bool) → State → Piece → List Segment × State
  | 0, _, state, _ => ([], { state with signal := .endless })
  | fuel + 1, splits, state, ⟨quoted, meaning⟩ =>
    let one (bytes : Bytes) (state : State) : List Segment × State :=
      ([.bytes bytes quoted (!quoted)], state)
    let length (parameter : Parameter) : Nat :=
      match parameter with
      | .arguments => state.arguments.length
      | .joined => state.arguments.length
      | _ => ((state.value? parameter).getD []).length
    match meaning with
    | .text chars => ([.bytes (Text.toUtf8 chars) quoted (splits && !quoted)], state)
    | .nonsense => ([], state.abort "Bad substitution")
    | .value .arguments => (argumentSegments quoted state.arguments, state)
    | .value parameter =>
      match state.value? parameter with
      | some value => one value state
      | none =>
        if state.demanding then ([], state.abort (parameter.title ++ ": parameter not set"))
        else one [] state
    | .length parameter => one (bytesOf (toString (length parameter))) state
    | .adjusted parameter adjustment orEmpty source =>
      let value := (state.value? parameter).filter fun value => !(orEmpty && value.isEmpty)
      let instead : List Segment × State :=
        let (segments, state) := expandText fuel quoted state source
        (if quoted then .bytes [] true false :: segments else segments, state)
      match adjustment, value with
      | .fallback, some value => one value state
      | .fallback, none => instead
      | .assign, some value => one value state
      | .assign, none =>
        let (segments, state) := expandText fuel quoted state source
        let value := flat segments
        one value (state.assign parameter.title value)
      | .alternative, some _ => instead
      | .alternative, none => one [] state
      | .demand, some value => one value state
      | .demand, none =>
        let (segments, state) := expandText fuel quoted state source
        let given := Text.ofUtf8 (flat segments)
        let reason :=
          if !source.isEmpty then given
          else if orEmpty then "parameter not set or null" else "parameter not set"
        ([], state.abort (parameter.title ++ ": " ++ reason))
      | .trim atEnd longest, _ =>
        let (segments, state) := expandText fuel false state source
        let value := (state.value? parameter).getD []
        one (trimmed atEnd longest (patternOf segments) value) state
    | .arithmetic source =>
      let (segments, state) := expandText fuel true state source
      let text := Text.ofUtf8 (flat segments)
      match calculate state.bindings text.toList with
      | .ok (value, bindings) =>
        one (bytesOf (toString value)) { state with bindings := bindings }
      | .error fault => ([], state.abort (fault.message text))
    | .output source =>
      let inner := { ownShell state with
        streams := state.streams.put 1 .capture, captured := .empty }
      let after := finish fuel (runText fuel inner source)
      let bytes := chomped after.captured.toList
      let state := { contained state after with
        captured := state.captured, status := state.status, substituted := some after.status }
      one (bytes.filter (· != 0)) state

/-- What a text inside a word expands to. -/
def expandText : Nat → (quoted : Bool) → State → List Char → List Segment × State
  | 0, _, state, _ => ([], { state with signal := .endless })
  | fuel + 1, quoted, state, source =>
    match word (source.length + 1) (if quoted then .document else .loose) source with
    | .ok (pieces, _) => expandPieces fuel true state pieces
    | .error message => ([], state.abort ("Syntax error: " ++ message))

def expandPieces : Nat → (splits : Bool) → State → Word → List Segment × State
  | 0, _, state, _ => ([], { state with signal := .endless })
  | fuel + 1, splits, state, pieces =>
    pieces.foldl (fun (segments, state) piece =>
      let (more, state) := expandPiece fuel splits state piece
      (segments ++ more, state)) ([], state)

def expandWords : Nat → State → List Word → List Bytes × State
  | 0, state, _ => ([], { state with signal := .endless })
  | fuel + 1, state, words =>
    words.foldl (fun (found, state) word =>
      let (segments, state) := expandPieces fuel false state word
      (found ++ fields state.separators segments, state)) ([], state)

/-- A state with streams that go somewhere else, or one with a complaint. -/
def redirectAll : Nat → List Redirection → State → Except State State
  | 0, _, state => .error { state with signal := .endless }
  | fuel + 1, redirections, state =>
    redirections.foldl (fun (outcome : Except State State) redirection => do
      let state ← outcome
      let (segments, state) := expandPieces fuel false state redirection.word
      if state.signal == .none then
        redirect state redirection.descriptor redirection.mode (flat segments)
      else throw state) (.ok state)

/-- Runs something with streams that go somewhere else. -/
def redirected : Nat → List Redirection → (State → State) → State → State
  | 0, _, _, state => { state with signal := .endless }
  | fuel + 1, redirections, body, state =>
    let reads := redirections.any fun redirection => redirection.mode ∈ [.read, .document]
    let restore (after : State) : State :=
      { after with
        streams := state.streams
        input := if reads then state.input else after.input }
    match redirectAll fuel redirections state with
    | .ok inner => restore (body inner)
    | .error failed => restore failed

/-- Lets everything that was started in the background come to its end. -/
def join : Nat → State → State
  | 0, state => { state with signal := .endless }
  | fuel + 1, state =>
    let waiting := state.companions
    waiting.foldl (fun state companion =>
      let inner := { ownShell state with time := companion.start, signal := .none, input := [] }
      let after := contained state (exec fuel companion.command inner)
      { after with
        time := max state.time after.time, status := state.status, input := state.input })
      { state with companions := [] }

/-- Ends a shell: what was prepared for its end is done, and what it started comes to its end. -/
def finish : Nat → State → State
  | 0, state => { state with signal := .endless }
  | fuel + 1, state =>
    let ended := match state.signal with
      | .killed _ => true
      | .endless => true
      | _ => false
    if ended then state
    else
      let status := state.status
      let state := match state.traps.get? "EXIT" with
        | some action =>
          let inner := { state with signal := .none, traps := state.traps.erase "EXIT" }
          let after := runText fuel inner (Text.ofUtf8 action).toList
          if after.signal == .exit then after else { after with status := status }
        | none => state
      join fuel state

/-- Runs a program at a path, which was called by a name, with arguments. -/
def runProgram : Nat → Program → Path → (name : String) → List Bytes → State → State
  | 0, _, _, _, _, state => { state with signal := .endless }
  | fuel + 1, program, path, name, arguments, state =>
    let fresh : State :=
      { state with
        name := name, arguments := arguments
        bindings := state.inherited.put "IFS" [32, 9, 10] |>.put "OPTIND" [49]
        functions := ∅, locals := none, loops := 0, traps := ∅, companions := []
        strict := false, demanding := false, tested := false, line := 1, status := 0 }
    match program with
    | .system program => runSystem { state with name := name } program arguments
    | .script text => finish fuel (runText fuel { fresh with name := path } text.toList)
    | .shell =>
      match arguments with
      | [] =>
        finish fuel (runText fuel { fresh with input := [] } (Text.ofUtf8 state.input).toList)
      | first :: rest =>
        if first == bytesOf "-c" then
          match rest with
          | [] => { fresh with line := 0 }.complain "-c requires an argument" 2
          | source :: rest =>
            let inner := { fresh with
              name := (rest.head?.map Text.ofUtf8).getD name, arguments := rest.tail }
            finish fuel (runText fuel inner (Text.ofUtf8 source).toList)
        else
          let file := Text.ofUtf8 first
          match contents state file with
          | .ok bytes =>
            let inner := { fresh with name := file, arguments := rest }
            finish fuel (runText fuel inner (Text.ofUtf8 bytes).toList)
          | .error _ =>
            { fresh with line := 0 }.complain ("cannot open " ++ file ++ ": No such file") 2

/-- Runs a program as a process of its own. -/
def spawn : Nat → (name : String) → List Bytes → State → State
  | 0, _, _, state => { state with signal := .endless }
  | fuel + 1, name, arguments, state =>
    match state.findProgram name with
    | .ok (path, program) =>
      let inner := { state with process := state.process + 1 }
      survived state (runProgram fuel program path name arguments inner)
    | .error obstacle =>
      let (text, status) := if name.isEmpty then ("Permission denied", 127) else obstacle.verdict
      state.complain (name ++ ": " ++ text) status

/-- Replaces the shell by a program. -/
def replace : Nat → (name : String) → List Bytes → State → State
  | 0, _, _, state => { state with signal := .endless }
  | fuel + 1, name, arguments, state =>
    let final := match state.findProgram name with
      | .ok (path, program) => runProgram fuel program path name arguments state
      | .error obstacle =>
        let (text, status) := obstacle.verdict
        state.complain ("exec: " ++ name ++ ": " ++ text) status
    let after := contained state final
    { after with
      signal := if after.signal == .none then .exit else after.signal
      traps := ∅ }

def call : Nat → Command → List Bytes → State → State
  | 0, _, _, state => { state with signal := .endless }
  | fuel + 1, body, arguments, state =>
    let inner := { state with arguments := arguments, locals := some [], loops := 0 }
    let after := delocalized (exec fuel body inner)
    { after with
      arguments := state.arguments
      locals := state.locals
      loops := state.loops
      signal := if after.signal == .back then .none else after.signal }

def describe (state : State) (name : String) (long : Bool) : State :=
  let say (text : String) : State := (state.write (bytesOf (text ++ "\n"))).done 0
  if reserved.contains name then say (if long then name ++ " is a shell keyword" else name)
  else if state.functions.contains name then
    say (if long then name ++ " is a shell function" else name)
  else if specialNames.contains name then
    say (if long then name ++ " is a special shell builtin" else name)
  else if builtinNames.contains name then
    say (if long then name ++ " is a shell builtin" else name)
  else
    match state.findProgram name with
    | .ok (path, _) => say (if long then name ++ " is " ++ path else path)
    | .error _ =>
      let state := if long then state.write (bytesOf (name ++ ": not found\n")) else state
      state.done 127

def runNamed : Nat → (name : String) → List Bytes → State → State
  | 0, _, _, state => { state with signal := .endless }
  | fuel + 1, name, arguments, state =>
    let texts := arguments.map Text.ofUtf8
    match specialNames.contains name, state.functions.get? name with
    | false, some body => call fuel body arguments state
    | _, _ =>
      match name, texts, arguments with
      | "exec", program :: _, _ :: rest => replace fuel program rest state
      | "exec", _, _ => state
      | "eval", _, _ =>
        runText fuel state (Text.ofUtf8 (List.intercalate [32] arguments)).toList
      | "command", "-v" :: name :: _, _ => describe state name false
      | "command", program :: _, _ :: rest => runNamed fuel program rest state
      | "type", name :: _, _ => describe state name true
      | "wait", _, _ => (join fuel state).done 0
      | ".", path :: _, _ =>
        match contents state path with
        | .ok bytes => runText fuel state (Text.ofUtf8 bytes).toList
        | .error _ => state.refuse "." ("cannot open " ++ path ++ ": No such file")
      | _, _, _ =>
        match builtin? state name arguments with
        | some after =>
          let actions := after.pending
          actions.foldl (fun state action => runText fuel state (Text.ofUtf8 action).toList)
            { after with pending := [] }
        | none => spawn fuel name arguments state

/-- Runs a command whose end someone looks at. -/
def examine : Nat → Command → State → State
  | 0, _, state => { state with signal := .endless }
  | fuel + 1, command, state =>
    { exec fuel command { state with tested := true } with tested := state.tested }

def exec : Nat → Command → State → State
  | 0, _, state => { state with signal := .endless }
  | fuel + 1, command, state =>
    if state.signal ≠ .none then state
    else
      match command with
      | .simple line assignments words redirections =>
        let (found, state) := expandWords fuel { state with line := line, substituted := none } words
        let assign (state : State) : State :=
          assignments.foldl (fun state (name, word) =>
            let (segments, state) := expandPieces fuel false state word
            state.assign name (flat segments)) state
        if state.signal ≠ .none then state
        else
          match found with
          | [] =>
            checked (redirected fuel redirections (fun state =>
              let state := assign { state with status := 0 }
              if state.signal == .none then state.done (state.substituted.getD 0) else state) state)
          | name :: arguments =>
            let name := Text.ofUtf8 name
            let names := assignments.map (·.1)
            let run (state : State) : State :=
              let after := runNamed fuel name arguments
                (assign { state with exports := names ++ state.exports })
              if specialNames.contains name then after
              else
                { after with
                  exports := if name == "export" then after.exports else state.exports
                  bindings := names.foldl (fun table name =>
                    match state.bindings.get? name with
                    | some value => table.put name value
                    | none => table.erase name) after.bindings }
            if name == "exec" && arguments.isEmpty then
              match redirectAll fuel redirections state with
              | .ok state => state.done 0
              | .error failed => { failed with streams := state.streams, signal := .exit }
            else
              checked (redirected fuel redirections run state)
      | .sequence commands => commands.foldl (fun state command => exec fuel command state) state
      | .pipe left right =>
        let inner := { ownShell state with
          streams := state.streams.put 1 .capture, captured := .empty }
        let after := contained state (finish fuel (exec fuel left inner))
        let piped := after.captured.toList
        let start := { ownShell after with
          captured := state.captured, input := piped, signal := .none }
        let final := finish fuel (exec fuel right start)
        let cut := !final.input.isEmpty && final.signal != .endless
        let state := { contained state final with input := state.input }
        let stuck := after.signal == .endless && !cut
        checked { state with
          signal := if stuck then .endless
            else match after.signal with
              | .killed number => .killed number
              | _ => state.signal
          time := max after.time final.time }
      | .both left right =>
        let state := examine fuel left state
        if state.status == 0 then exec fuel right state else state
      | .either left right =>
        let state := examine fuel left state
        if state.status == 0 then state else exec fuel right state
      | .negation inner =>
        let state := examine fuel inner state
        if state.signal == .none then state.done (if state.status == 0 then 1 else 0) else state
      | .branch condition yes no =>
        let state := examine fuel condition state
        if state.signal ≠ .none then state
        else if state.status == 0 then exec fuel yes state
        else
          match no with
          | .sequence [] => state.done 0
          | _ => exec fuel no state
      | .loop succeeds condition body =>
        let once (state : State × Nat) : (State × Nat) × Bool :=
          let after := examine fuel condition state.1
          if after.signal ≠ .none then
            let (after, goesOn) := afterRound after
            ((after, state.2), goesOn)
          else if (after.status == 0) != succeeds then ((after.done state.2, state.2), false)
          else
            let (after, goesOn) := afterRound (exec fuel body after)
            ((after, after.status), goesOn)
        let ((after, _), endless) := iterate once patience ({ state with loops := state.loops + 1 }, 0)
        { after with
          loops := state.loops, signal := if endless then .endless else after.signal }
      | .each name words body =>
        let (values, state) := match words with
          | some words => expandWords fuel state words
          | none => (state.arguments, state)
        if state.signal ≠ .none then state
        else
          let start := { state with loops := state.loops + 1, status := 0 }
          let (after, _) := values.foldl (fun (state, goesOn) value =>
            if goesOn then afterRound (exec fuel body (state.assign name value))
            else (state, false)) (start, true)
          { after with loops := state.loops }
      | .choice subject clauses =>
        let (segments, state) := expandPieces fuel false state subject
        let value := flat segments
        let found := clauses.foldl (fun (found : Option Command × State) (patterns, body) =>
          match found with
          | (some _, _) => found
          | (none, state) =>
            patterns.foldl (fun (found : Option Command × State) word =>
              match found with
              | (some _, _) => found
              | (none, state) =>
                let (segments, state) := expandPieces fuel false state word
                (if fits (patternOf segments) value then some body else none, state))
              (none, state)) (none, state.done 0)
        match found with
        | (some body, state) => exec fuel body state
        | (none, state) => state
      | .function name body =>
        { state with functions := state.functions.put name body }.done 0
      | .background body =>
        { state with companions := state.companions ++ [Companion.mk state.time body] }.done 0
      | .subshell body =>
        checked (contained state (finish fuel (exec fuel body (ownShell state))))
      | .redirected line body redirections =>
        redirected fuel redirections (fun state => exec fuel body state) { state with line := line }

def runText : Nat → State → List Char → State
  | 0, state, _ => { state with signal := .endless }
  | fuel + 1, state, text =>
    let (commands, fault) := parse text
    let state := commands.foldl (fun state command => exec fuel command state) state
    match fault with
    | some fault =>
      if state.signal == .none then
        { state with line := fault.line }.abort ("Syntax error: " ++ fault.message)
      else state
    | none => state

end

end LanguageServer.Shell
