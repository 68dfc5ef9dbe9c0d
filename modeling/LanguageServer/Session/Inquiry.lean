import LanguageServer.Call.Definition
import LanguageServer.Session.Basic

/-! Questions about symbols, which the compiler answers. -/

namespace LanguageServer.Session

/-- Where a line of the editor is for the compiler. -/
def compilerLine (line : Nat) : Nat :=
  min (line + 1) maxPosition

/-- The place that a question is about, if there is one. Help with a call asks about the definition
of the function that the document's text has. -/
def inquiry? (session : Session) (uri : Uri) : Question → Option Inquiry
  | .symbol line column => some ⟨uri, .symbol, line, column⟩
  | .hover position => some ⟨uri, .hover, compilerLine position.line, position.character⟩
  | .definition position =>
    some ⟨uri, .definition position, compilerLine position.line, position.character⟩
  | .signature position => do
    let document ← session.documents.get? uri
    let before ← document.before? position
    let call ← Call.context? before
    let site ← Call.definition? document.text.toList call.name
    return ⟨uri, .signature call, site.line + 1, site.column⟩

/-- What an answer about a symbol turns into, if it does. -/
def Inquiry.reply? (inquiry : Inquiry) (answer : Except Symbol.Failure Symbol) : Option Reply :=
  match inquiry.purpose, answer with
  | .symbol, answer => some (.symbol answer)
  | .hover, .ok symbol => some (.hover symbol.hover)
  | .definition position, .ok symbol => some (.definition (symbol.target inquiry.uri position))
  | .signature call, .ok symbol => some (.signature (symbol.signatureOf call))
  | _, .error _ => none

def reply (session : Session) (id : OperationId) (reply : Option Reply) : Session × List Effect :=
  (session.finish id, [.done id (.reply reply)])

/-- A question for which the settings are known: it looks for the compiler and calls it. -/
def query (host : Host) (session : Session) (id : OperationId) (inquiry : Inquiry)
    (settings : Settings) : Session × List Effect :=
  let (session, found, notices) := session.resolve host settings
  match found, session.documents.get? inquiry.uri, host.scratch id with
  | some executable, some document, some file =>
    ((session.store file document.text).suspend id (.asking inquiry executable file),
      notices ++ [.call id executable
        (Compiler.queryArguments file inquiry.line inquiry.column) document.text])
  | _, _, _ =>
    let (session, effects) := session.reply id none
    (session, notices ++ effects)

def inquire (host : Host) (session : Session) (id : OperationId) (inquiry : Inquiry) :
    Session × List Effect :=
  match session.settings? inquiry.uri with
  | some settings => session.query host id inquiry settings
  | none => (session.suspend id (.fetching (.inquire inquiry)), [.fetch id (some inquiry.uri)])

def ask (host : Host) (session : Session) (id : OperationId) (uri : Uri) (question : Question) :
    Session × List Effect :=
  match session.inquiry? uri question with
  | some inquiry => session.inquire host id inquiry
  | none => session.reply id none

/-- A symbol whose declaration does not name the file that only the compiler saw. -/
def withoutScratch (scratch : Path) (symbol : Symbol) : Symbol :=
  { symbol with
    location := symbol.location.map fun location =>
      { location with file := location.file.filter fun file => !Path.same file scratch } }

/-- Whether a failure means that the compiler could not be run. -/
def isAlarming (failure : Symbol.Failure) : Bool :=
  failure.code == Symbol.Failure.spawnCode || failure.code == Symbol.Failure.timeoutCode

/-- Ends a question whose call has ended. -/
def answered (session : Session) (id : OperationId) (inquiry : Inquiry) (executable scratch : Path)
    (ending : Compiler.Ending) : Session × List Effect :=
  let session := session.discard scratch
  match Compiler.symbol executable ending with
  | .ok symbol => session.reply id (inquiry.reply? (.ok (withoutScratch scratch symbol)))
  | .error failure =>
    let (session, notices) :=
      if isAlarming failure then session.alarm failure.message else (session, [])
    let (session, effects) := session.reply id (inquiry.reply? (.error failure))
    (session, notices ++ effects)

end LanguageServer.Session
