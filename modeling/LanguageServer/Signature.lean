import LanguageServer.Call.Context
import LanguageServer.Symbol.Presentation

/-! Help with the parameters of a call that is being written. -/

namespace LanguageServer

/-- What is shown about a call. -/
structure Signature where
  label : String
  documentation : Option String
  parameters : List Symbol.Parameter
  /-- The parameter that is being written. There is one of that number, or none at all, so that it
  fits in 32 bits unless there are more than `maxPosition` parameters. -/
  active : Nat
  deriving DecidableEq, Repr

/-- What a symbol says about a call. -/
def Symbol.signatureOf (symbol : Symbol) (call : Call.Context) : Signature where
  label := Symbol.label (String.ofList call.name) symbol.parameterList
  documentation := symbol.documentation
  parameters := symbol.parameterList
  active := Call.activeParameter call.commas symbol.parameterList.length

end LanguageServer
