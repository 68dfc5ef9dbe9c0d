import LanguageServer.Json.Value

/-! What the compiler knows about a symbol, and what it answers when asked. -/

namespace LanguageServer

namespace Symbol

/-- What kind of thing a symbol names. -/
inductive Kind
  | function
  | variable
  | struct
  | type
  deriving DecidableEq, Repr

def Kind.name : Kind → String
  | .function => "function"
  | .variable => "variable"
  | .struct => "struct"
  | .type => "type"

structure Parameter where
  name : String
  documentation : Option String
  deriving DecidableEq, Repr

/-- Where a symbol is declared: in a file, or else in the text that was asked about. Lines count
from one, columns from zero. -/
structure Location where
  file : Option String
  line : Nat
  column : Nat
  deriving DecidableEq, Repr

end Symbol

/-- A symbol as the compiler describes it. -/
structure Symbol where
  kind : Symbol.Kind
  name : String
  type : String
  signature : String
  documentation : Option String
  parameters : Option (List Symbol.Parameter)
  returns : Option String
  location : Option Symbol.Location
  deriving DecidableEq, Repr

namespace Symbol

/-- The parameters of a symbol; one that lists none has none. -/
def parameterList (symbol : Symbol) : List Parameter :=
  symbol.parameters.getD []

/-- Why a question about a symbol has no answer. -/
structure Failure where
  code : String
  message : String
  deriving DecidableEq, Repr

def Failure.notFoundCode : String := "SymbolNotFound"

def Failure.parseCode : String := "ParseError"

def Failure.spawnCode : String := "SpawnError"

def Failure.timeoutCode : String := "TimeoutError"

def Failure.isNotFound (failure : Failure) : Bool :=
  failure.code == notFoundCode

def Failure.display (failure : Failure) : String :=
  failure.code ++ ": " ++ failure.message

/-! ### As JSON -/

def Parameter.toJson (parameter : Parameter) : Json :=
  Json.ofMembers
    [("name", some (.string parameter.name)),
     ("documentation", parameter.documentation.map .string)]

def Location.toJson (location : Location) : Json :=
  Json.ofMembers
    [("file", location.file.map .string),
     ("line", some (Json.nat location.line)),
     ("column", some (Json.nat location.column))]

/-- A symbol as an object; absent parts are left out. -/
def toJson (symbol : Symbol) : Json :=
  Json.ofMembers
    [("kind", some (.string symbol.kind.name)),
     ("name", some (.string symbol.name)),
     ("type", some (.string symbol.type)),
     ("signature", some (.string symbol.signature)),
     ("documentation", symbol.documentation.map .string),
     ("parameters", symbol.parameters.map fun parameters =>
       .array (parameters.map Parameter.toJson)),
     ("returnDoc", symbol.returns.map .string),
     ("location", symbol.location.map Location.toJson)]

def Failure.toJson (failure : Failure) : Json :=
  .object [("code", .string failure.code), ("message", .string failure.message)]

end Symbol

end LanguageServer
