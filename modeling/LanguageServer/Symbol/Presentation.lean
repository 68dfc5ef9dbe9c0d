import LanguageServer.Symbol.Basic
import LanguageServer.Text.Blank

/-! How a symbol is shown: its hover text and its signature. -/

namespace LanguageServer.Symbol

/-- A documentation text without the space around it, unless nothing is left. -/
def spoken? (text : String) : Option String :=
  let words := Text.trimmed text
  if words.isEmpty then none else some words

/-- The line about a parameter, if it is documented. -/
def Parameter.entry? (parameter : Parameter) : Option String :=
  (parameter.documentation.bind spoken?).map fun words =>
    "- `" ++ parameter.name ++ "`: " ++ words

/-- The first line: kind, name and type. -/
def headline (symbol : Symbol) : String :=
  "**" ++ symbol.kind.name ++ "** `" ++ symbol.name ++ "`: `" ++ symbol.type ++ "`"

/-- The signature as a code block, unless it is empty. -/
def signatureBlock? (symbol : Symbol) : Option String :=
  if symbol.signature.isEmpty then none
  else some ("```volta\n" ++ symbol.signature ++ "\n```")

/-- The list of the documented parameters, if there are any. -/
def parameterBlock? (symbol : Symbol) : Option String :=
  match symbol.parameterList.filterMap Parameter.entry? with
  | [] => none
  | entries => some ("**Parameters:**\n" ++ "\n".intercalate entries)

/-- What the symbol returns, if that is documented. -/
def returnsBlock? (symbol : Symbol) : Option String :=
  (symbol.returns.bind spoken?).map fun words => "**Returns:** " ++ words

/-- The hover text in Markdown: the parts that have something to say. -/
def hover (symbol : Symbol) : String :=
  "\n\n".intercalate <| [some symbol.headline, symbol.signatureBlock?,
    symbol.documentation.bind spoken?, symbol.parameterBlock?, symbol.returnsBlock?].filterMap id

/-- A call of a name with these parameters, as it is shown. -/
def label (name : String) (parameters : List Parameter) : String :=
  name ++ "(" ++ ", ".intercalate (parameters.map (·.name)) ++ ")"

end LanguageServer.Symbol
