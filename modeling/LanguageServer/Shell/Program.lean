import LanguageServer.Shell.Utility

/-! Where programs are found. -/

namespace LanguageServer.Shell

/-- A program: the shell, another one of the system, or a script. -/
inductive Program
  | shell
  | system (name : String)
  | script (text : String)

/-- Why a program cannot be run. -/
inductive Obstacle
  | missing
  | notDirectory
  | forbidden
  /-- A file that is no program. -/
  | format
  deriving DecidableEq, Repr

def shellNames : List String :=
  ["sh", "dash", "bash"]

def systemProgram? (path : Path) : Option Program :=
  systemDirectories.findSome? fun directory =>
    let isAt (name : String) : Bool := path == directory ++ "/" ++ name
    if shellNames.any isAt then some Program.shell
    else (systemPrograms.find? isAt).map .system

/-- The program that a script names in its first line to be run by. -/
def interpreter? (text : String) : Option Path :=
  match text.toList with
  | '#' :: '!' :: rest =>
    let line := (rest.takeWhile (· ≠ '\n')).dropWhile fun c => c == ' ' || c == '\t'
    some (String.ofList (line.takeWhile fun c => c != ' ' && c != '\t'))
  | _ => none

def programAt (tree : FileTree) (directory : List String) (path : Path) :
    Except Obstacle Program :=
  match systemProgram? path with
  | some program => .ok program
  | none =>
    match tree.lookup directory path with
    | .error .missing => .error .missing
    | .error .notDirectory => .error .notDirectory
    | .ok .directory => .error .forbidden
    | .ok (.file false _) => .error .forbidden
    | .ok (.file true text) =>
      match interpreter? text with
      | none => .error .format
      | some interpreter =>
        match systemProgram? interpreter with
        | some .shell => .ok (.script text)
        | _ => .error .missing

/-- Looks for a program in directories. One that is there and cannot be run is passed over, but it
decides what is said if there is no other. -/
def searchProgram (tree : FileTree) (directory : List String) (name : String) :
    Obstacle → List Path → Except Obstacle (Path × Program)
  | obstacle, [] => .error obstacle
  | obstacle, place :: places =>
    let path := Path.join place name
    match programAt tree directory path with
    | .ok program => .ok (path, program)
    | .error .format => .error .format
    | .error .forbidden => searchProgram tree directory name .forbidden places
    | .error _ => searchProgram tree directory name obstacle places

/-- The program of a name and its path. A name without directories is looked for on the search
path. -/
def findProgram (tree : FileTree) (directory : List String) (search : String) (name : String) :
    Except Obstacle (Path × Program) :=
  if name.isEmpty then .error .missing
  else if name.toList.contains '/' then
    (programAt tree directory name).map fun program => (name, program)
  else
    searchProgram tree directory name .missing
      ((Text.split (· == ':') search.toList).map String.ofList)

/-- The program of a name that a script uses. -/
def State.findProgram (state : State) (name : String) : Except Obstacle (Path × Program) :=
  let search := Text.ofUtf8 ((state.bindings.get? "PATH").getD [])
  Shell.findProgram state.tree state.directory search name

end LanguageServer.Shell
