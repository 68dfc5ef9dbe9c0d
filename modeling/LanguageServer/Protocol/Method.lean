import LanguageServer.Protocol.Params

/-! The methods of the protocol. -/

namespace LanguageServer

/-- What a message asks for. -/
inductive Method
  | greeting
  | initialized
  | shutdown
  | exit
  | cancel
  | didOpen
  | didChange
  | didClose
  | didChangeConfiguration
  | hover
  | definition
  | completion
  | signatureHelp
  /-- A request that the protocol knows and the server does not serve. -/
  | unserved
  /-- A notification that the protocol knows and the server has no use for. -/
  | unheeded
  deriving DecidableEq, Repr

namespace Method

open Protocol

def isRequest : Method → Bool
  | .greeting | .shutdown | .hover | .definition | .completion | .signatureHelp | .unserved => true
  | _ => false

/-- Methods that the server serves, and the parameters that they take. -/
def served : List (String × Method × Option Shape) :=
  [("initialize", .greeting, some greetingShape),
   ("initialized", .initialized, some .object),
   ("shutdown", .shutdown, none),
   ("exit", .exit, none),
   ("$/cancelRequest", .cancel, some (Shape.record [("id", tokenShape)])),
   ("textDocument/didOpen", .didOpen, some openShape),
   ("textDocument/didChange", .didChange, some changeShape),
   ("textDocument/didClose", .didClose, some closeShape),
   ("workspace/didChangeConfiguration", .didChangeConfiguration, some configurationShape),
   ("textDocument/hover", .hover, some placeShape),
   ("textDocument/definition", .definition, some placeShape),
   ("textDocument/completion", .completion, some completionShape),
   ("textDocument/signatureHelp", .signatureHelp, some signatureShape)]

/-- Requests about a place that the server does not serve. -/
def unservedPlaces : List String :=
  ["textDocument/declaration", "textDocument/typeDefinition", "textDocument/implementation",
   "textDocument/documentHighlight", "textDocument/moniker", "textDocument/prepareRename",
   "textDocument/linkedEditingRange", "textDocument/prepareCallHierarchy",
   "textDocument/prepareTypeHierarchy"]

/-- Other requests that the server does not serve. -/
def unservedOthers : List String :=
  ["textDocument/rename", "textDocument/documentLink", "documentLink/resolve",
   "textDocument/codeLens", "codeLens/resolve", "textDocument/foldingRange",
   "textDocument/selectionRange", "textDocument/documentSymbol",
   "textDocument/semanticTokens/full", "textDocument/semanticTokens/full/delta",
   "textDocument/semanticTokens/range", "textDocument/inlineValue", "textDocument/inlayHint",
   "inlayHint/resolve", "completionItem/resolve", "textDocument/diagnostic",
   "workspace/diagnostic", "textDocument/codeAction", "codeAction/resolve",
   "textDocument/documentColor", "textDocument/colorPresentation", "textDocument/formatting",
   "textDocument/rangeFormatting", "textDocument/onTypeFormatting",
   "textDocument/willSaveWaitUntil", "callHierarchy/incomingCalls",
   "callHierarchy/outgoingCalls", "typeHierarchy/supertypes", "typeHierarchy/subtypes",
   "workspace/symbol", "workspaceSymbol/resolve", "workspace/willCreateFiles",
   "workspace/willRenameFiles", "workspace/willDeleteFiles", "workspace/executeCommand"]

/-- Notifications that the server has no use for. -/
def unheededNames : List String :=
  ["textDocument/willSave", "textDocument/didSave", "workspace/didChangeWorkspaceFolders",
   "workspace/didCreateFiles", "workspace/didRenameFiles", "workspace/didDeleteFiles",
   "workspace/didChangeWatchedFiles"]

/-- The method of a name, and the parameters that it takes. -/
def ofName? (name : String) : Option (Method × Option Shape) :=
  match served.find? (·.1 == name) with
  | some (_, found) => some found
  | none =>
    if name == "textDocument/references" then some (.unserved, some referenceShape)
    else if unservedPlaces.contains name then some (.unserved, some placeShape)
    else if unservedOthers.contains name then some (.unserved, some .any)
    else if unheededNames.contains name then some (.unheeded, some .any)
    else none

end Method

end LanguageServer
