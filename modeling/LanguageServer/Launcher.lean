import LanguageServer.Compiler
import LanguageServer.Shell.Eval

/-! Running programs: those of the system, and shell scripts in a tree of files, which is how a
compiler is given to a run of the server or of the command line. -/

namespace LanguageServer

/-- What a program finds when it is run. -/
structure Launcher where
  tree : FileTree := {}
  /-- The current directory. -/
  directory : List String := []
  /-- The directories in which programs are looked for, divided by colons. -/
  search : String := "/usr/local/bin:/usr/bin:/bin"
  /-- The user's own directory. -/
  home : Option Path := none
  /-- How long a program may take, in milliseconds. -/
  timeout : Nat := 10000

namespace Launcher

open Shell

/-- Directories that every system has. -/
def systemDirectories : List String :=
  ["bin", "dev", "etc", "home", "lib", "opt", "proc", "root", "sbin", "sys", "tmp", "usr", "usr/bin",
    "usr/lib", "usr/local", "usr/local/bin", "usr/sbin", "usr/share", "var", "var/tmp"]

/-- Files that every system has and that are not programs. -/
def systemFiles : List String :=
  ["dev/null", "etc/group", "etc/hosts", "etc/hostname", "etc/passwd", "etc/resolv.conf"]

/-- The files of the system. What its programs do is not written in them. -/
def system : FileTree where
  entries :=
    let programs := ["bin", "usr/bin"].flatMap fun place =>
      (shellNames ++ systemPrograms).map fun name => FileTree.names (place ++ "/" ++ name)
    programs.map (fun place => (place, .file true ""))
      ++ systemFiles.map (fun path => (FileTree.names path, .file false ""))
      ++ systemDirectories.map (fun path => (FileTree.names path, .directory))

/-- What the system says about a program that cannot be run. -/
def reason : Obstacle → String
  | .missing => "No such file or directory (os error 2)"
  | .notDirectory => "Not a directory (os error 20)"
  | .forbidden => "Permission denied (os error 13)"
  | .format => "Exec format error (os error 8)"

/-- Whether a text can be given to a program. -/
def isPassable (text : String) : Bool :=
  !text.toList.contains '\x00'

/-- How deep the parts of a script may be nested. -/
def depth : Nat := 1000

/-- The variables that a program finds. -/
def bindings (launcher : Launcher) : Table String Bytes :=
  let table := Table.put ∅ "PATH" (bytesOf launcher.search)
  match launcher.home with
  | some home => table.put "HOME" (bytesOf home)
  | none => table

/-- How a program ends, and how many milliseconds it takes. Its input is empty. A program that takes
as long as it may is stopped then. -/
def run (launcher : Launcher) (executable : Path) (arguments : List String) :
    Nat × Compiler.Ending :=
  if !(executable :: arguments).all isPassable then
    (0, .error (.spawn "nul byte found in provided data"))
  else
    let tree : FileTree := ⟨launcher.tree.entries ++ system.entries⟩
    match findProgram tree launcher.directory launcher.search executable with
    | .error obstacle => (0, .error (.spawn (reason obstacle)))
    | .ok (path, program) =>
      let start : State :=
        { name := executable
          bindings := launcher.bindings
          exports := launcher.bindings.keys
          tree := tree
          directory := launcher.directory }
      let final := runProgram depth program path executable (arguments.map bytesOf) start
      if final.signal == .endless || launcher.timeout ≤ final.time then
        (launcher.timeout, .error (.timeout (1000000 * launcher.timeout)))
      else
        let exitCode := match final.signal with
          | .killed _ => none
          | _ => some (final.status : Int)
        (final.time, .ok
          { stdout := Text.ofUtf8 final.stdout.toList
            stderr := Text.ofUtf8 final.stderr.toList
            exitCode := exitCode })

end Launcher

end LanguageServer
