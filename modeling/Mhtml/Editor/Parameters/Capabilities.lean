import Mhtml.Editor.Parameters.Basic

/-!
# What an editor can do

The shape of the capabilities that an editor announces at the start of a
session. The server makes no use of them, but it refuses a session whose
announcement cannot be read.
-/

namespace Mhtml.Parameters.Capabilities

open Shape Member

/-- Members that may each be a truth value. -/
def flags (names : List String) : List Member :=
  names.map (optional · boolean)

/-- Members that may each hold one thing only: whether the capability comes and goes. -/
def registrations (names : List String) : List Member :=
  names.map (optional · registration)
where
  /-- Whether a capability comes and goes. -/
  registration : Shape := record (flags ["dynamicRegistration"])

/-- Whether the server may ask for a refresh. -/
def refresh : Shape := record (flags ["refreshSupport"])

/-- The properties that may be filled in later. -/
def lazyProperties : Shape := record [required "properties" (listOf text)]

/-- The kinds that are known, if the editor tells. -/
def kindSet (shape : Shape) : Shape := record [optional "valueSet" (listOf shape)]

/-- The tags that are known; a truth value will do. -/
def tags : Shape :=
  either boolean (record [required "valueSet" (listOf kind)])

/-- The formats of text. -/
def formats : Shape := listOf (oneOf ["plaintext", "markdown"])

/-! ## Workspace -/

/-- What the editor can do with edits of several documents. -/
def workspaceEdit : Shape := record <|
  [optional "documentChanges" boolean,
   optional "resourceOperations" (listOf (oneOf ["create", "rename", "delete"])),
   optional "failureHandling"
    (oneOf ["abort", "transactional", "textOnlyTransactional", "undo"]),
   optional "normalizesLineEndings" boolean,
   optional "changeAnnotationSupport" (record (flags ["groupsOnLabel"]))]

/-- What the editor can do with symbols of the workspace. -/
def workspaceSymbol : Shape := record <|
  [optional "dynamicRegistration" boolean, optional "symbolKind" (kindSet kind),
   defaulted "tagSupport" tags, optional "resolveSupport" lazyProperties]

/-- What the editor can do with files. -/
def fileOperations : Shape := record <|
  flags ["dynamicRegistration", "didCreate", "willCreate", "didRename", "willRename", "didDelete",
    "willDelete"]

/-- What the editor can do with the workspace. -/
def workspace : Shape := record <|
  [optional "applyEdit" boolean,
   optional "workspaceEdit" workspaceEdit] ++
  registrations ["didChangeConfiguration"] ++
  [optional "didChangeWatchedFiles"
    (record (flags ["dynamicRegistration", "relativePatternSupport"])),
   optional "symbol" workspaceSymbol] ++
  registrations ["executeCommand"] ++
  flags ["workspaceFolders", "configuration"] ++
  [optional "semanticTokens" refresh,
   optional "codeLens" refresh,
   optional "fileOperations" fileOperations,
   optional "inlineValue" refresh,
   optional "inlayHint" refresh,
   optional "diagnostic" refresh]

/-! ## Text documents -/

/-- What the editor can do with completions. -/
def completion : Shape := record <|
  [optional "dynamicRegistration" boolean,
   optional "completionItem" item,
   optional "completionItemKind" (kindSet kind),
   optional "contextSupport" boolean,
   optional "insertTextMode" kind,
   optional "completionList" (record [optional "itemDefaults" (listOf text)])]
where
  /-- What the editor can do with an offered completion. -/
  item : Shape := record <|
    flags ["snippetSupport", "commitCharactersSupport"] ++
    [optional "documentationFormat" formats] ++
    flags ["deprecatedSupport", "preselectSupport"] ++
    [defaulted "tagSupport" tags,
     optional "insertReplaceSupport" boolean,
     optional "resolveSupport" lazyProperties,
     optional "insertTextModeSupport"
      (record [required "valueSet" (listOf kind)]),
     optional "labelDetailsSupport" boolean]

/-- What the editor can do with signatures. -/
def signatureHelp : Shape := record <|
  [optional "dynamicRegistration" boolean,
   optional "signatureInformation" information,
   optional "contextSupport" boolean]
where
  /-- What the editor can do with one signature. -/
  information : Shape := record <|
    [optional "documentationFormat" formats,
     optional "parameterInformation"
      (record (flags ["labelOffsetSupport"])),
     optional "activeParameterSupport" boolean]

/-- What the editor can do with symbols of a document. -/
def documentSymbol : Shape := record <|
  [optional "dynamicRegistration" boolean, optional "symbolKind" (kindSet kind),
   optional "hierarchicalDocumentSymbolSupport" boolean, defaulted "tagSupport" tags]

/-- What the editor can do with a way from one place to another. -/
def link : Shape := record (flags ["dynamicRegistration", "linkSupport"])

/-- What the editor can do with actions on code. -/
def codeAction : Shape := record <|
  [optional "dynamicRegistration" boolean,
   optional "codeActionLiteralSupport"
    (record [required "codeActionKind" literals])] ++
  flags ["isPreferredSupport", "disabledSupport", "dataSupport"] ++
  [optional "resolveSupport" lazyProperties,
   optional "honorsChangeAnnotations" boolean]
where
  /-- The kinds of actions that are known. -/
  literals : Shape := record [required "valueSet" (listOf text)]

/-- What the editor can do with new names. -/
def rename : Shape := record <|
  flags ["dynamicRegistration", "prepareSupport"] ++
  [optional "prepareSupportDefaultBehavior" kind, optional "honorsChangeAnnotations" boolean]

/-- What the editor can do with diagnostics that are sent to it. -/
def publishDiagnostics : Shape := record <|
  [optional "relatedInformation" boolean, defaulted "tagSupport" tags] ++
  flags ["versionSupport", "codeDescriptionSupport", "dataSupport"]

/-- What the editor can do with ranges that fold. -/
def foldingRange : Shape := record <|
  [optional "dynamicRegistration" boolean, optional "rangeLimit" uint32,
   optional "lineFoldingOnly" boolean,
   optional "foldingRangeKind" (kindSet (oneOf ["comment", "imports", "region"])),
   optional "foldingRange" (record (flags ["collapsedText"]))]

/-- What the editor can do with tokens. -/
def semanticTokens : Shape := record <|
  [optional "dynamicRegistration" boolean,
   required "requests" requests,
   required "tokenTypes" (listOf text),
   required "tokenModifiers" (listOf text),
   required "formats" (listOf text)] ++
  flags ["overlappingTokenSupport", "multilineTokenSupport", "serverCancelSupport",
    "augmentsSyntaxTokens"]
where
  /-- Which tokens the editor may ask for. -/
  requests : Shape := record <|
    [optional "range" boolean,
     optional "full" (either boolean (object (flags ["delta"])).shape)]

/-- What the editor can do with text documents. -/
def textDocument : Shape := record <|
  [optional "synchronization"
    (record (flags ["dynamicRegistration", "willSave", "willSaveWaitUntil", "didSave"])),
   optional "completion" completion,
   optional "hover"
    (record [optional "dynamicRegistration" boolean, optional "contentFormat" formats]),
   optional "signatureHelp" signatureHelp] ++
  registrations ["references", "documentHighlight"] ++
  [optional "documentSymbol" documentSymbol] ++
  registrations ["formatting", "rangeFormatting", "onTypeFormatting"] ++
  ["declaration", "definition", "typeDefinition", "implementation"].map (optional · link) ++
  [optional "codeAction" codeAction] ++
  registrations ["codeLens"] ++
  [optional "documentLink"
    (record (flags ["dynamicRegistration", "tooltipSupport"]))] ++
  registrations ["colorProvider"] ++
  [optional "rename" rename,
   optional "publishDiagnostics" publishDiagnostics,
   optional "foldingRange" foldingRange] ++
  registrations ["selectionRange", "linkedEditingRange", "callHierarchy"] ++
  [optional "semanticTokens" semanticTokens] ++
  registrations ["moniker", "typeHierarchy", "inlineValue"] ++
  [optional "inlayHint"
    (record [optional "dynamicRegistration" boolean, optional "resolveSupport" lazyProperties]),
   optional "diagnostic"
    (record (flags ["dynamicRegistration", "relatedDocumentSupport"]))]

/-! ## The rest -/

/-- What the editor can do with its window. -/
def window : Shape := record <|
  [optional "workDoneProgress" boolean,
   optional "showMessage"
    (record [optional "messageActionItem" actionItem]),
   optional "showDocument" (record [required "support" boolean])]
where
  /-- What the editor can do with the answers to a message. -/
  actionItem : Shape := record (flags ["additionalPropertiesSupport"])

/-- What else the editor can do. -/
def general : Shape := record <|
  [optional "regularExpressions" (record [required "engine" text, optional "version" text]),
   optional "markdown"
    (record
      [required "parser" text, optional "version" text, optional "allowedTags" (listOf text)]),
   optional "staleRequestSupport"
    (record [required "cancel" boolean, required "retryOnContentModified" (listOf text)]),
   optional "positionEncodings" (listOf text)]

/-- All that an editor can do. -/
def all : Shape := record <|
  [optional "workspace" workspace,
   optional "textDocument" textDocument,
   optional "window" window,
   optional "general" general,
   optional "experimental" anything]

end Mhtml.Parameters.Capabilities
