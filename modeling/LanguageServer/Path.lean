import LanguageServer.Text.Split

/-! Paths of files. -/

namespace LanguageServer

/-- The path of a file, as it is written. -/
abbrev Path := String

namespace Path

def isAbsolute (path : Path) : Bool :=
  path.toList.head? == some '/'

/-- The names along a path. Empty ones do not count, nor does a `.` unless it starts a path that is
not absolute. -/
def components (path : Path) : List String :=
  let names := Text.split (· == '/') path.toList
  let kept := names.filter fun name => !name.isEmpty && name != ['.']
  let kept := if names.head? == some ['.'] then ['.'] :: kept else kept
  kept.map String.ofList

/-- Whether two paths are the same, component by component. -/
def same (left right : Path) : Bool :=
  left.isAbsolute == right.isAbsolute && left.components == right.components

/-- A path below a directory. An absolute path stands for itself. -/
def join (directory path : Path) : Path :=
  if path.isAbsolute then path
  else if directory.isEmpty || directory.toList.getLast? == some '/' then directory ++ path
  else directory ++ "/" ++ path

end Path

end LanguageServer
