import LanguageServer.Completion
import LanguageServer.Session.Basic

/-! What the editor is sent, as JSON. -/

namespace LanguageServer

def Position.toJson (position : Position) : Json :=
  .object [("line", Json.nat position.line), ("character", Json.nat position.character)]

def Range.toJson (range : Range) : Json :=
  .object [("start", range.start.toJson), ("end", range.stop.toJson)]

def Target.toJson (target : Target) : Json :=
  .object [("uri", .string target.uri.text), ("range", target.range.toJson)]

def Severity.code : Severity → Nat
  | .error => 1
  | .warning => 2

/-- The part of the text that a span covers. -/
def Span.range (span : Span) : Range :=
  ⟨⟨span.startLine, span.startColumn⟩, ⟨span.endLine, span.endColumn⟩⟩

def Diagnostic.toJson (diagnostic : Diagnostic) : Json :=
  .object
    [("range", diagnostic.span.range.toJson),
     ("severity", Json.nat diagnostic.severity.code),
     ("source", .string "volta"),
     ("message", .string diagnostic.message)]

/-- A keyword as an item of a completion list, inserted as plain text. -/
def Keyword.toJson (keyword : Keyword) : Json :=
  .object
    [("label", .string keyword.word),
     ("kind", Json.nat 14),
     ("detail", .string keyword.detail),
     ("insertText", .string keyword.word),
     ("insertTextFormat", Json.nat 1)]

def markdown (text : String) : Json :=
  .object [("kind", .string "markdown"), ("value", .string text)]

/-- A parameter as part of a signature. -/
def Symbol.Parameter.toLabel (parameter : Symbol.Parameter) : Json :=
  Json.ofMembers
    [("label", some (.string parameter.name)),
     ("documentation", parameter.documentation.map .string)]

/-- Help with a call: one signature, which is the active one. -/
def Signature.toJson (signature : Signature) : Json :=
  let shown := Json.ofMembers
    [("label", some (.string signature.label)),
     ("documentation", signature.documentation.map markdown),
     ("parameters", some (.array (signature.parameters.map Symbol.Parameter.toLabel))),
     ("activeParameter", some (Json.nat signature.active))]
  .object
    [("signatures", .array [shown]),
     ("activeSignature", Json.nat 0),
     ("activeParameter", Json.nat signature.active)]

/-- The answer to a question as the editor gets it. -/
def Session.Reply.toJson : Session.Reply → Json
  | .symbol (.ok found) => found.toJson
  | .symbol (.error failure) => failure.toJson
  | .hover text => .object [("contents", markdown text)]
  | .definition target => target.toJson
  | .signature shown => shown.toJson

def Session.Gravity.code : Session.Gravity → Nat
  | .error => 1
  | .warning => 2

end LanguageServer
