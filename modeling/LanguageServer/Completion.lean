import LanguageServer.Document
import LanguageServer.Text.Blank

/-! Completion by the keywords of the language. -/

namespace LanguageServer

/-- A keyword that can be completed, with a short description. -/
structure Keyword where
  word : String
  detail : String
  deriving DecidableEq, Repr

/-- All keywords, in the order in which they are offered. -/
def keywords : List Keyword :=
  [⟨"fn", "Define a function"⟩,
   ⟨"let", "Declare an immutable binding"⟩,
   ⟨"mut", "Declare a mutable binding"⟩,
   ⟨"const", "Declare a compile-time constant"⟩,
   ⟨"if", "Conditional branch"⟩,
   ⟨"else", "Alternative branch of a conditional"⟩,
   ⟨"while", "Loop while a condition holds"⟩,
   ⟨"for", "Iterate over a collection"⟩,
   ⟨"in", "Iteration source in a for loop"⟩,
   ⟨"return", "Return from the enclosing function"⟩,
   ⟨"break", "Exit the enclosing loop"⟩,
   ⟨"continue", "Skip to the next loop iteration"⟩,
   ⟨"struct", "Define a struct type"⟩,
   ⟨"type", "Define a type alias"⟩,
   ⟨"import", "Import a module"⟩,
   ⟨"true", "Boolean literal true"⟩,
   ⟨"false", "Boolean literal false"⟩,
   ⟨"nil", "The absent value"⟩,
   ⟨"and", "Logical conjunction"⟩,
   ⟨"or", "Logical disjunction"⟩,
   ⟨"not", "Logical negation"⟩]

/-- The keywords after which a new name is written. -/
def namingWords : List String :=
  ["let", "mut", "const", "fn", "struct", "type"]

/-- Whether a new name is being written at the end of a text. -/
def naming (text : List Char) : Bool :=
  match (Text.words text).getLast? with
  | none => false
  | some word => namingWords.contains (String.ofList word)

/-- The keywords offered at a position: none where a new name is written, else all. A line that
does not exist counts as an empty one. -/
def Document.completions (document : Document) (position : Position) : List Keyword :=
  if naming ((document.before? position).getD []) then [] else keywords

end LanguageServer
