import LanguageServer.Document
import LanguageServer.Protocol.Shape
import LanguageServer.Settings

/-! The parameters of the messages that an editor sends. -/

namespace LanguageServer.Protocol

open Shape (record)

/-! ### Shapes -/

def positionShape : Shape :=
  record [("line", .unsigned), ("character", .unsigned)]

def identifierShape : Shape :=
  record [("uri", .uri)]

/-- A number or a text that stands for some work. -/
def tokenShape : Shape :=
  .either .signed .text

/-- A place in a document, which most requests are about. -/
def placeShape : Shape :=
  record
    [("textDocument", identifierShape),
     ("position", positionShape),
     ("workDoneToken", .optional tokenShape)]

def referenceShape : Shape :=
  .member "context" (record [("includeDeclaration", .bool)]) placeShape

def completionShape : Shape :=
  .member "context"
    (.optional (record [("triggerKind", .signed), ("triggerCharacter", .optional .text)])) placeShape

def signatureShape : Shape :=
  .member "context"
    (.optional (record
      [("triggerKind", .signed), ("triggerCharacter", .optional .text), ("isRetrigger", .bool)]))
    placeShape

def openShape : Shape :=
  record
    [("textDocument", record
      [("uri", .uri), ("languageId", .text), ("version", .signed), ("text", .text)])]

def changeShape : Shape :=
  record
    [("textDocument", record [("uri", .uri), ("version", .signed)]),
     ("contentChanges", .list (record
       [("range", .optional (record [("start", positionShape), ("end", positionShape)])),
        ("rangeLength", .optional .unsigned),
        ("text", .text)]))]

def closeShape : Shape :=
  record [("textDocument", identifierShape)]

def configurationShape : Shape :=
  record [("settings", .any)]

def capabilitiesShape : Shape :=
  record
    [("workspace", .optional (record
       [("applyEdit", .optional .bool),
        ("workspaceFolders", .optional .bool),
        ("configuration", .optional .bool)])),
     ("textDocument", .optional .object),
     ("window", .optional .object),
     ("general", .optional .object)]

/-- What the editor says about itself at the start. -/
def greetingShape : Shape :=
  record
    [("processId", .optional .unsigned),
     ("rootPath", .optional .text),
     ("rootUri", .optional .uri),
     ("capabilities", capabilitiesShape),
     ("trace", .optional (.word ["off", "messages", "verbose"])),
     ("workspaceFolders", .optional (.list (record [("uri", .uri), ("name", .text)]))),
     ("clientInfo", .optional (record [("name", .text), ("version", .optional .text)])),
     ("locale", .optional .text)]

/-! ### Values -/

/-- The member at the end of a path of keys. -/
def at? (value : Json) : List String → Option Json
  | [] => some value
  | key :: rest => (value.member? key).bind (at? · rest)

def text? (params : Json) (path : List String) : Option String :=
  match at? params path with
  | some (.string text) => some text
  | _ => none

def integer? (params : Json) (path : List String) : Option Int :=
  match at? params path with
  | some (.number (.integer value)) => some value
  | _ => none

def uri? (params : Json) : Option Uri :=
  (text? params ["textDocument", "uri"]).bind Uri.parse?

def position? (params : Json) : Option Position := do
  let line ← integer? params ["position", "line"]
  let character ← integer? params ["position", "character"]
  return ⟨line.toNat, character.toNat⟩

/-- The last text of a list of changes. Each holds the whole text. -/
def lastChange? (params : Json) : Option String :=
  match params.member? "contentChanges" with
  | some (.array changes) => changes.getLast?.bind (text? · ["text"])
  | _ => none

/-- Whether the editor can be asked for settings. -/
def canBeAsked (params : Json) : Bool :=
  match at? params ["capabilities", "workspace", "configuration"] with
  | some (.bool value) => value
  | _ => false

/-- The settings that the editor starts the server with. -/
def initialSettings? (params : Json) : Option Settings :=
  (params.member? "initializationOptions").bind Settings.ofJson?

end LanguageServer.Protocol
