import LanguageServer.Path
import LanguageServer.Uri.Percent

/-! Names of documents. -/

namespace LanguageServer

/-- The name of a document, in its normal form. -/
structure Uri where
  text : String
  deriving DecidableEq, Repr

namespace Uri

/-- The name of a file, if its path is absolute. -/
def ofPath? (path : Path) : Option Uri :=
  if path.isAbsolute then
    match path.components with
    | [] => some ⟨"file:///"⟩
    | names =>
      let encoded := names.map fun name => '/' :: percentEncode componentSet name.toList
      some ⟨"file://" ++ String.ofList encoded.flatten⟩
  else
    none

end Uri

end LanguageServer
