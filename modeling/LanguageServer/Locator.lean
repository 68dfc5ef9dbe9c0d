import LanguageServer.Path
import LanguageServer.Settings

/-! Where the compiler is looked for: where the settings say, on the search path and in the places
where it is usually installed. -/

namespace LanguageServer

/-- What the search for the compiler depends on. -/
structure Locator where
  /-- Whether a path leads to a file that can be run. -/
  isProgram : Path → Bool
  /-- The current directory. -/
  current : Path
  /-- The directories in which programs are looked for, divided by colons. -/
  search : Option String
  /-- The user's own directory. -/
  home : Option Path

namespace Locator

def compilerName : Path := "volta"

/-- Whether a path has more than one component, the root included. -/
def hasDirectory (path : Path) : Bool :=
  path.components.length + (if path.isAbsolute then 1 else 0) > 1

/-- The places that a program can be at: one for a path with directories, else one in every
directory of the search path. -/
def candidates (locator : Locator) (path : Path) : List Path :=
  if hasDirectory path then [Path.join locator.current path]
  else
    match locator.search with
    | some search =>
      (Text.split (· == ':') search.toList).map fun directory =>
        Path.join (String.ofList directory) path
    | none => []

/-- The first place that has the program. -/
def find? (locator : Locator) (path : Path) : Option Path :=
  (locator.candidates path).find? locator.isProgram

/-- A path in which `~/` at the start stands for the user's own directory, if there is one. -/
def expandHome (locator : Locator) (path : Path) : Path :=
  match "~/".toList.isPrefixOf? path.toList, locator.home with
  | some rest, some home => Path.join home (String.ofList rest)
  | _, _ => path

/-- The places where the compiler is usually installed. -/
def usualPlaces (locator : Locator) : List Path :=
  let own := match locator.home with
    | some home => [".volta/bin", ".local/bin", ".cargo/bin"].map (Path.join home)
    | none => []
  (own ++ ["/usr/local/bin", "/opt/homebrew/bin", "/usr/bin"]).map (Path.join · compilerName)

def locate? (locator : Locator) (settings : Settings) : Option Path :=
  let named := settings.compiler?.bind fun path => locator.find? (locator.expandHome path)
  let searched := named.or (locator.find? compilerName)
  searched.or (locator.usualPlaces.findSome? locator.find?)

end Locator

end LanguageServer
