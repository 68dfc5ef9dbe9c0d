import LanguageServer.Json.Value
import LanguageServer.Text.Blank

/-! The settings of the server and how they are read from what the editor sends. -/

namespace LanguageServer

structure Settings where
  /-- The most messages that are shown for a document. -/
  maxDiagnostics : Nat := 100
  /-- The compiler to use. -/
  compilerPath : Option String := none
  deriving DecidableEq, Repr

namespace Settings

/-- A count of messages: an integer of 64 bits without a sign. -/
def count? : Json → Option Nat
  | .number (.integer value) => if 0 ≤ value ∧ value < Int.pow 2 64 then some value.toNat else none
  | _ => none

/-- A path, or `null` for none. -/
def path? : Json → Option (Option String)
  | .null => some none
  | .string path => some (some path)
  | _ => none

/-- A field that is missing, is as it should be, or spoils the settings. -/
def field? (read : Json → Option α) (default : α) : Option Json → Option α
  | none => some default
  | some value => read value

/-- Settings from an object or from a list of the two values. The limit has two keys, of which at
most one may be there. -/
def ofJson? : Json → Option Settings
  | value@(.object _) =>
    match value.member? "maxDiagnostics", value.member? "maxNumberOfProblems" with
    | some _, some _ => none
    | first, second => do
      let limit ← field? count? 100 (first.or second)
      let path ← field? path? none (value.member? "compilerPath")
      return ⟨limit, path⟩
  | .array items =>
    if items.length ≤ 2 then do
      let limit ← field? count? 100 items[0]?
      let path ← field? path? none items[1]?
      return ⟨limit, path⟩
    else
      none
  | _ => none

/-- Settings from the notice of a change, which may hold them in a section of their own. -/
def ofChange? (value : Json) : Option Settings :=
  match value.member? "volta" with
  | some inner => ofJson? inner
  | none => ofJson? value

/-- The compiler that the settings name, unless they name none or a blank one. -/
def compiler? (settings : Settings) : Option String :=
  settings.compilerPath.bind fun path =>
    let path := Text.trimmed path
    if path.isEmpty then none else some path

/-- Settings with what they leave open taken from more general ones. -/
def completedBy (settings general : Settings) : Settings :=
  { settings with
    compilerPath := if settings.compiler?.isSome then settings.compilerPath else general.compilerPath }

def toJson (settings : Settings) : Json :=
  .object
    [("maxDiagnostics", Json.nat settings.maxDiagnostics),
     ("compilerPath", (settings.compilerPath.map Json.string).getD .null)]

end Settings

end LanguageServer
