import LanguageServer.Compiler
import LanguageServer.Debounce.Register
import LanguageServer.Definition
import LanguageServer.Document
import LanguageServer.Settings
import LanguageServer.Signature

/-! The state of a session, what reaches it and what it brings about.

A session never waits. An operation that needs an answer of the editor or of the compiler is put
aside at that point, and the answer is a later input. -/

namespace LanguageServer

/-- What became of a validation. -/
inductive Outcome
  /-- So many diagnostics were published. -/
  | published (count : Nat)
  /-- There was no compiler or no such document. -/
  | skipped
  /-- The document has been validated again or closed since. -/
  | stale
  /-- The compiler could not be run. -/
  | failed
  deriving DecidableEq, Repr

namespace Session

/-- The number of an operation. No two operations of a session have the same. -/
abbrev OperationId := Nat

/-- Why a document is validated. -/
inductive Cause
  /-- Someone waits for the outcome. -/
  | asked
  /-- The document has been at rest for a while. -/
  | rest
  /-- A change of the configuration waits for all open documents. -/
  | change (id : OperationId)
  deriving DecidableEq, Repr

inductive Question
  /-- The symbol at a place; the line counts from one. -/
  | symbol (line column : Nat)
  | hover (position : Position)
  | definition (position : Position)
  | signature (position : Position)
  deriving DecidableEq, Repr

/-- What the answer about a symbol is for. -/
inductive Purpose
  | symbol
  | hover
  | definition (position : Position)
  | signature (call : Call.Context)
  deriving DecidableEq, Repr

/-- A question about the symbol at a place. The line counts from one. -/
structure Inquiry where
  uri : Uri
  purpose : Purpose
  line : Nat
  column : Nat
  deriving DecidableEq, Repr

/-- What an answer about a symbol turns into. -/
inductive Reply
  | symbol (answer : Except Symbol.Failure Symbol)
  | hover (text : String)
  | definition (target : Target)
  | signature (signature : Signature)

/-- A run of the compiler that checks a document. -/
structure Check where
  uri : Uri
  cause : Cause
  /-- The number of the validation among all that came so far. -/
  revision : Nat
  /-- The version of the text that is checked. -/
  version : Int
  /-- The most diagnostics to publish. -/
  limit : Nat
  executable : Path
  scratch : Path
  deriving DecidableEq, Repr

/-- What needs the settings of a document. -/
inductive Task
  | validate (uri : Uri) (cause : Cause)
  | inquire (inquiry : Inquiry)
  deriving DecidableEq, Repr

def Task.uri : Task → Uri
  | .validate uri _ => uri
  | .inquire inquiry => inquiry.uri

/-- Where an operation stands that has not come to its end. -/
inductive Stage
  /-- A validation that has yet to begin. -/
  | ready (uri : Uri) (cause : Cause)
  /-- Waits for the settings of its document. -/
  | fetching (task : Task)
  /-- Waits for the compiler to check a document. -/
  | checking (check : Check)
  /-- Waits for the compiler to answer a question. -/
  | asking (inquiry : Inquiry) (executable scratch : Path)
  /-- A change of the configuration that waits for the general settings, with those of before. -/
  | reconfiguring (general : Settings)
  /-- A change of the configuration that waits for so many of the validations it started. -/
  | revalidating (waiting count : Nat)
  deriving DecidableEq, Repr

end Session

structure Session where
  /-- The open documents. -/
  documents : Table Uri Document := ∅
  /-- The settings of documents, as far as the editor was asked for them. -/
  settings : Table Uri Settings := ∅
  /-- The settings that hold where nothing else does. -/
  general : Settings := {}
  /-- Whether the editor can be asked for settings. -/
  pulls : Bool := false
  /-- The documents whose first validation has been started. -/
  validated : List Uri := []
  /-- The last validation of each document that got as far as the compiler. -/
  latest : Table Uri Nat := ∅
  /-- How many validations got as far as the compiler. -/
  revision : Nat := 0
  /-- The documents that wait to be at rest. -/
  timers : Debounce.Register Uri := {}
  /-- The compiler that was found last. -/
  compiler : Option Path := none
  /-- Whether the user knows that there is no compiler. -/
  warned : Bool := false
  /-- Whether the user knows that the compiler cannot be run. -/
  alarmed : Bool := false
  /-- The operations that have not come to their end. -/
  operations : Table Session.OperationId Session.Stage := ∅
  nextOperation : Session.OperationId := 0
  /-- The files that hold texts for the compiler. -/
  scratch : Table Path String := ∅

namespace Session

/-- What a session finds around it. -/
structure Host where
  /-- The compiler that settings lead to. -/
  locate : Settings → Option Path
  /-- The name of the file that is made for an operation, if one can be made. -/
  scratch : OperationId → Option Path

inductive Request
  | open (uri : Uri) (text : String) (version : Int)
  | change (uri : Uri) (text : String) (version : Int)
  | close (uri : Uri)
  | shutdown
  | validate (uri : Uri)
  /-- The configuration has changed, perhaps to settings that are known. -/
  | configure (settings : Option Settings)
  | ask (uri : Uri) (question : Question)

inductive Input
  | start (request : Request)
  /-- The editor has answered a request for settings, or has no answer. -/
  | settings (id : OperationId) (answer : Option Json)
  /-- A call of the compiler has ended. -/
  | ended (id : OperationId) (ending : Compiler.Ending)
  /-- The time has passed that a document should be at rest. -/
  | rested (uri : Uri) (ticket : Nat)
  /-- An operation that could go on gets its turn. -/
  | turn (id : OperationId)
  /-- Nobody waits for an operation any more. -/
  | abandon (id : OperationId)

inductive Result
  | none
  | outcome (outcome : Option Outcome)
  | count (documents : Nat)
  | reply (reply : Option Reply)

inductive Gravity
  | error
  | warning
  deriving DecidableEq, Repr

inductive Effect
  /-- Asks the editor for the settings of a document, or for the general ones. -/
  | fetch (id : OperationId) (scope : Option Uri)
  /-- Calls the compiler with a file that holds a text. -/
  | call (id : OperationId) (executable : Path) (arguments : List String) (contents : String)
  /-- Shows what a check found. -/
  | publish (check : Check) (diagnostics : List Diagnostic)
  | message (gravity : Gravity) (text : String)
  /-- Lets the time begin that a document should be at rest. -/
  | rest (uri : Uri) (ticket : Nat)
  /-- Puts an operation behind all others that could go on. -/
  | queue (id : OperationId)
  | done (id : OperationId) (result : Result)

/-! ### Parts that all operations share -/

def missingText : String :=
  "Volta compiler not found. Set `volta.compilerPath` or put `volta` on your PATH to enable diagnostics."

def alarmText (detail : String) : String :=
  "Could not run the Volta compiler: " ++ detail

def isOpen (session : Session) (uri : Uri) : Bool :=
  session.documents.contains uri

/-- Gives an operation its place. -/
def suspend (session : Session) (id : OperationId) (stage : Stage) : Session :=
  { session with operations := session.operations.put id stage }

/-- Forgets an operation that has come to its end. -/
def finish (session : Session) (id : OperationId) : Session :=
  { session with operations := session.operations.erase id }

/-- Draws the number of a new operation. -/
def draw (session : Session) : Session × OperationId :=
  ({ session with nextOperation := session.nextOperation + 1 }, session.nextOperation)

/-- The settings of a document, unless the editor has to be asked for them. -/
def settings? (session : Session) (uri : Uri) : Option Settings :=
  if session.pulls then session.settings.get? uri else some session.general

/-- Settings that the editor answered with, above general ones, or these alone. -/
def layered (general : Settings) (answer : Option Json) : Settings :=
  match answer.bind Settings.ofJson? with
  | some pulled => pulled.completedBy general
  | none => general

/-- Keeps the settings of a document if it is open. -/
def keep (session : Session) (uri : Uri) (settings : Settings) : Session :=
  if session.isOpen uri then { session with settings := session.settings.put uri settings }
  else session

/-- Looks for the compiler. The first time that there is none, the user is told. -/
def resolve (host : Host) (session : Session) (settings : Settings) :
    Session × Option Path × List Effect :=
  let found := host.locate settings
  let session := { session with compiler := found }
  if found.isNone && !session.warned then
    ({ session with warned := true }, found, [.message .warning missingText])
  else
    (session, found, [])

/-- Tells the user that the compiler cannot be run, the first time that this is so. -/
def alarm (session : Session) (detail : String) : Session × List Effect :=
  if session.alarmed then (session, [])
  else ({ session with alarmed := true }, [.message .error (alarmText detail)])

def store (session : Session) (file : Path) (text : String) : Session :=
  { session with scratch := session.scratch.put file text }

def discard (session : Session) (file : Path) : Session :=
  { session with scratch := session.scratch.erase file }

end Session

end LanguageServer
