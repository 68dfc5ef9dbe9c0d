import LanguageServer.Text.Lines

/-! Documents that are open in the editor. -/

namespace LanguageServer

/-- A place in a document. Lines and characters count from zero. -/
structure Position where
  line : Nat
  character : Nat
  deriving DecidableEq, Repr

/-- A text with its lines, which are kept so that positions can be looked up. -/
structure Lined where
  text : String
  lines : List (List Char)
  lines_eq : lines = Text.lines text.toList
  deriving Repr

namespace Lined

@[coe]
def ofText (text : String) : Lined :=
  ⟨text, Text.lines text.toList, rfl⟩

instance : Coe String Lined := ⟨ofText⟩

@[simp]
theorem ofText_text (text : String) : (ofText text).text = text := rfl

theorem ofText_eq (lined : Lined) : ofText lined.text = lined := by
  obtain ⟨text, lines, rfl⟩ := lined
  rfl

theorem ext_text {one other : Lined} (same : one.text = other.text) : one = other := by
  rw [← ofText_eq one, same, ofText_eq]

instance : DecidableEq Lined := fun one other =>
  decidable_of_iff (one.text = other.text) ⟨ext_text, congrArg text⟩

end Lined

/-- The text of an open document and the version that the editor gave it. -/
structure Document extends Lined where
  version : Int
  deriving DecidableEq, Repr

namespace Document

/-- A document is determined by its text and its version. -/
theorem mk_text_version (document : Document) :
    Document.mk document.text document.version = document := by
  rw [Lined.ofText_eq]

/-- A document after an edit that replaces the whole text. -/
def update (_document : Document) (text : String) (version : Int) : Document :=
  ⟨text, version⟩

/-- The text of a line before a position, unless there is no such line. -/
def before? (document : Document) (position : Position) : Option (List Char) :=
  document.lines[position.line]?.map (·.take position.character)

end Document

end LanguageServer
