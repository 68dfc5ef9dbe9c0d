import LanguageServer.Diagnostic
import LanguageServer.Document
import LanguageServer.Symbol.Basic
import LanguageServer.Uri.Basic

/-! Where the definition of a symbol is shown. -/

namespace LanguageServer

/-- A part of a document, from its start up to its stop. -/
structure Range where
  start : Position
  stop : Position
  deriving DecidableEq, Repr

/-- A part of a document that has a name. -/
structure Target where
  uri : Uri
  range : Range
  deriving DecidableEq, Repr

namespace Symbol

/-- The sum of two numbers, but no more than the largest position. -/
def shifted (position count : Nat) : Nat :=
  min (position + count) maxPosition

/-- Where to go from a position in a document to the definition of the symbol there. Without a
declaration it is the position itself; without a file that has a name, the document. The length of
the symbol's name is taken to be at most `maxPosition`. -/
def target (symbol : Symbol) (uri : Uri) (position : Position) : Target :=
  match symbol.location with
  | none => ⟨uri, ⟨position, position⟩⟩
  | some location =>
    let uri := (location.file.bind Uri.ofPath?).getD uri
    let line := location.line - 1
    ⟨uri, ⟨⟨line, location.column⟩, ⟨line, shifted location.column symbol.name.length⟩⟩⟩

end Symbol

end LanguageServer
