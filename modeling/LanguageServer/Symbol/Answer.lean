import LanguageServer.Json.Record
import LanguageServer.Symbol.Basic
import LanguageServer.Text.Blank

/-! Reading of the compiler's answer to a question about a symbol.

The answer is an envelope: whether the question succeeded, and the symbol or the failure. -/

namespace LanguageServer.Symbol

open Json Json.Reader

/-- The kinds by their names; each has one with a capital, too. -/
def Kind.spellings : List (String × Kind) :=
  [("Function", .function), ("function", .function),
   ("Variable", .variable), ("variable", .variable),
   ("Struct", .struct), ("struct", .struct),
   ("Type", .type), ("type", .type)]

def Kind.ofName (name : String) : Reader Kind :=
  match Kind.spellings.find? (·.1 == name) with
  | some (_, kind) => return kind
  | none => fail (.unknownVariant name (Kind.spellings.map (·.1)))

def null : Reader Unit := do
  match ← peekToken with
  | none => fail .endInValue
  | some 'n' => advance; restOfNull
  | some _ => unexpected "unit"

/-- The name of a kind inside an object. -/
def Kind.readKey : Reader Kind := do
  match ← peekToken with
  | none => fail .endInValue
  | some '"' =>
    advance
    Kind.ofName (← stringTail)
  | some _ => unexpected "variant identifier"

/-- A kind: its name, or an object with its name as the only key and `null` as the value. -/
def Kind.read : Reader Kind := do
  match ← peekToken with
  | none => fail .endInValue
  | some '"' =>
    advance
    Kind.ofName (← stringTail)
  | some '{' =>
    advance
    let kind ← Kind.readKey
    colon
    null
    match ← peekToken with
    | none => fail .endInObject
    | some '\x7d' => advance; return kind
    | some _ => fail .expectedValue
  | some _ => fail .expectedValue

/-- The fields of a parameter as far as they have been read. -/
structure ParameterFields where
  name : Option String := none
  documentation : Option (Option String) := none

/-- How a parameter is read. -/
def Parameter.record : Record ParameterFields Parameter where
  name := "SymbolParameter"
  empty := {}
  fields :=
    [{ key := "name"
       filled := fun state => state.name.isSome
       read := do let value ← string; return fun state => { state with name := some value }
       omissible := false },
     { key := "documentation"
       filled := fun state => state.documentation.isSome
       read := do
         let value ← Reader.optional string
         return fun state => { state with documentation := some value }
       omissible := true }]
  build := fun state => do
    let name ← required "name" state.name
    return ⟨name, state.documentation.join⟩

structure LocationFields where
  file : Option (Option String) := none
  line : Option Nat := none
  column : Option Nat := none

def Location.record : Record LocationFields Location where
  name := "SourceLocation"
  empty := {}
  fields :=
    [{ key := "file"
       filled := fun state => state.file.isSome
       read := do
         let value ← Reader.optional string
         return fun state => { state with file := some value }
       omissible := true },
     { key := "line"
       filled := fun state => state.line.isSome
       read := do let value ← word; return fun state => { state with line := some value }
       omissible := false },
     { key := "column"
       filled := fun state => state.column.isSome
       read := do let value ← word; return fun state => { state with column := some value }
       omissible := false }]
  build := fun state => do
    let line ← required "line" state.line
    let column ← required "column" state.column
    return ⟨state.file.join, line, column⟩

structure FailureFields where
  code : Option String := none
  message : Option String := none

def Failure.record : Record FailureFields Failure where
  name := "QueryError"
  empty := {}
  fields :=
    [{ key := "code"
       filled := fun state => state.code.isSome
       read := do let value ← string; return fun state => { state with code := some value }
       omissible := false },
     { key := "message"
       filled := fun state => state.message.isSome
       read := do let value ← string; return fun state => { state with message := some value }
       omissible := false }]
  build := fun state => do
    let code ← required "code" state.code
    let message ← required "message" state.message
    return ⟨code, message⟩

structure SymbolFields where
  kind : Option Kind := none
  name : Option String := none
  type : Option String := none
  signature : Option String := none
  documentation : Option (Option String) := none
  parameters : Option (Option (List Parameter)) := none
  returns : Option (Option String) := none
  location : Option (Option Location) := none

def record : Record SymbolFields Symbol where
  name := "SymbolInfo"
  empty := {}
  fields :=
    [{ key := "kind"
       filled := fun state => state.kind.isSome
       read := do let value ← Kind.read; return fun state => { state with kind := some value }
       omissible := false },
     { key := "name"
       filled := fun state => state.name.isSome
       read := do let value ← string; return fun state => { state with name := some value }
       omissible := false },
     { key := "type"
       filled := fun state => state.type.isSome
       read := do let value ← string; return fun state => { state with type := some value }
       omissible := true },
     { key := "signature"
       filled := fun state => state.signature.isSome
       read := do let value ← string; return fun state => { state with signature := some value }
       omissible := true },
     { key := "documentation"
       filled := fun state => state.documentation.isSome
       read := do
         let value ← Reader.optional string
         return fun state => { state with documentation := some value }
       omissible := true },
     { key := "parameters"
       filled := fun state => state.parameters.isSome
       read := do
         let value ← Reader.optional (list Parameter.record.read)
         return fun state => { state with parameters := some value }
       omissible := true },
     { key := "returnDoc"
       filled := fun state => state.returns.isSome
       read := do
         let value ← Reader.optional string
         return fun state => { state with returns := some value }
       omissible := true },
     { key := "location"
       filled := fun state => state.location.isSome
       read := do
         let value ← Reader.optional Location.record.read
         return fun state => { state with location := some value }
       omissible := true }]
  build := fun state => do
    let kind ← required "kind" state.kind
    let name ← required "name" state.name
    return {
      kind, name
      type := state.type.getD ""
      signature := state.signature.getD ""
      documentation := state.documentation.join
      parameters := state.parameters.join
      returns := state.returns.join
      location := state.location.join }

/-- The compiler's answer before it is known to be complete. -/
structure Envelope where
  success : Bool
  result : Option Symbol
  error : Option Failure
  deriving DecidableEq, Repr

structure EnvelopeFields where
  success : Option Bool := none
  result : Option (Option Symbol) := none
  error : Option (Option Failure) := none

def Envelope.record : Record EnvelopeFields Envelope where
  name := "Envelope"
  empty := {}
  fields :=
    [{ key := "success"
       filled := fun state => state.success.isSome
       read := do let value ← boolean; return fun state => { state with success := some value }
       omissible := false },
     { key := "result"
       filled := fun state => state.result.isSome
       read := do
         let value ← Reader.optional Symbol.record.read
         return fun state => { state with result := some value }
       omissible := true },
     { key := "error"
       filled := fun state => state.error.isSome
       read := do
         let value ← Reader.optional Failure.record.read
         return fun state => { state with error := some value }
       omissible := true }]
  build := fun state => do
    let success ← required "success" state.success
    return ⟨success, state.result.join, state.error.join⟩

/-- What an envelope says: the symbol if it reports success, else the failure. One that lacks what
it announces is a failure of its own. -/
def Envelope.answer (envelope : Envelope) : Except Failure Symbol :=
  match envelope with
  | ⟨true, some symbol, _⟩ => .ok symbol
  | ⟨true, none, _⟩ =>
    .error ⟨Failure.parseCode, "successful symbol query without a result"⟩
  | ⟨false, _, some failure⟩ => .error failure
  | ⟨false, _, none⟩ => .error ⟨Failure.parseCode, "failed symbol query without an error"⟩

/-- The answer that the compiler printed, space around it aside. -/
def ofOutput (output : List Char) : Except Failure Symbol :=
  match Envelope.record.read.all (Text.trim output) with
  | .ok envelope => envelope.answer
  | .error fault =>
    .error ⟨Failure.parseCode, "invalid symbol query output: " ++ fault.message⟩

end LanguageServer.Symbol
