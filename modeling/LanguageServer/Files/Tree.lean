import LanguageServer.Path

/-! Trees of files. -/

namespace LanguageServer

/-- What can stand at a place in a tree. -/
inductive Node
  | directory
  | file (executable : Bool) (text : String)
  deriving DecidableEq, Repr

/-- A tree of files. The directories on the way to a place are there too. -/
structure FileTree where
  entries : List (List String × Node) := []
  deriving Repr

namespace FileTree

/-- Why there is nothing at the end of a path. -/
inductive Gap
  | missing
  /-- A file stands where there would have to be a directory. -/
  | notDirectory
  deriving DecidableEq, Repr

def node? (tree : FileTree) (place : List String) : Option Node :=
  if place.isEmpty then some .directory
  else
    match tree.entries.find? (·.1 == place) with
    | some (_, node) => some node
    | none => if tree.entries.any (place.isPrefixOf ·.1) then some .directory else none

/-- The place at the end of a way of names that starts in a directory. -/
def walk (tree : FileTree) (place : List String) : List String → Except Gap (List String)
  | [] => .ok place
  | name :: rest =>
    if name == "" || name == "." then tree.walk place rest
    else if name == ".." then tree.walk place.dropLast rest
    else
      let next := place ++ [name]
      match tree.node? next, rest with
      | none, _ => .error .missing
      | some .directory, _ => tree.walk next rest
      | some (.file ..), [] => .ok next
      | some (.file ..), _ :: _ => .error .notDirectory

/-- The names that a path is written with, empty ones included. -/
def names (path : Path) : List String :=
  (Text.split (· == '/') path.toList).map String.ofList

def lookup (tree : FileTree) (directory : List String) (path : Path) : Except Gap Node := do
  if path.isEmpty then throw .missing
  let place ← tree.walk (if path.isAbsolute then [] else directory) (names path)
  match tree.node? place with
  | some node => return node
  | none => throw .missing

/-- Whether a path leads to a file that can be run. -/
def isProgram (tree : FileTree) (directory : List String) (path : Path) : Bool :=
  match tree.lookup directory path with
  | .ok (.file executable _) => executable
  | _ => false

def put (tree : FileTree) (place : List String) (node : Node) : FileTree :=
  ⟨(place, node) :: tree.entries.filter (·.1 != place)⟩

end FileTree

end LanguageServer
