import LanguageServer.Path
import LanguageServer.Table

/-! Files that hold a text for the compiler. -/

namespace LanguageServer

/-- The directory of such files. Every file has a name of its own. -/
structure Scratch where
  /-- Whether no file can be made. -/
  broken : Bool := false
  made : Nat := 0
  files : Table Path String := ∅

namespace Scratch

def fileName (number : Nat) : Path :=
  "volta-lsp-" ++ toString number ++ ".volta"

def filePath (number : Nat) : Path :=
  Path.join "/tmp" (fileName number)

/-- Whether a file has the name of one that holds a text for the compiler. -/
def isNamed (path : Path) : Bool :=
  match path.components.getLast? with
  | some name => name.startsWith "volta-lsp-" && name.endsWith ".volta"
  | none => false

/-- Makes a file with a text. -/
def create? (scratch : Scratch) (text : String) : Option (Scratch × Path) :=
  if scratch.broken then none
  else
    let path := filePath scratch.made
    some ({ scratch with made := scratch.made + 1, files := scratch.files.put path text }, path)

/-- Makes a file for every text of a list. -/
def createAll? (scratch : Scratch) : List String → Option (Scratch × List Path)
  | [] => some (scratch, [])
  | text :: rest => do
    let (scratch, path) ← scratch.create? text
    let (scratch, paths) ← scratch.createAll? rest
    return (scratch, path :: paths)

def remove (scratch : Scratch) (path : Path) : Scratch :=
  { scratch with files := scratch.files.erase path }

end Scratch

end LanguageServer
