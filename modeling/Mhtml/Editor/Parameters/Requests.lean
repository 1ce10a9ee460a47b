import Mhtml.Editor.Parameters.Basic

/-!
# Parameters of requests that are not offered

The requests that an editor may make of a server and that this one knows by name
only. Their parameters are read all the same: a request that cannot be read is
refused for that, and one that can be read for not being offered.
-/

namespace Mhtml.Parameters

open Shape Member

variable [Uri.Reader]

/-- Parameters that come as an object. -/
def call (members : List Member) : Shape :=
  (object members).shape

/-! ## Symbols -/

/-- A symbol to which others stand in a relation. Its tags are described by `tags`. -/
def hierarchyItem (tags : Shape) : Shape := record
  [required "name" text, required "kind" kind, optional "tags" tags, optional "detail" text,
   required "uri" uri, required "range" range.shape, required "selectionRange" range.shape,
   optional "data" anything]

/-- Whom a symbol calls or is called by. -/
def hierarchyCalls : Shape :=
  call (required "item" (hierarchyItem (listOf kind)) :: resultProgress)

/-- The types above or below a type. -/
def hierarchyTypes : Shape :=
  call (required "item" (hierarchyItem kind) :: resultProgress)

/-- A symbol of the workspace; it may be enough to name its document. -/
def workspaceSymbol : Shape := record
  [required "name" text, required "kind" kind, optional "tags" (listOf kind),
   optional "containerName" text,
   required "location" (either location.shape documentId.shape), optional "data" anything]

/-! ## Help with signatures -/

/-- A parameter of a signature, by its name or its place in the signature. -/
def parameterInformation : Shape := record
  [required "label" (either text offsets), optional "documentation" documentation]
where
  /-- Two offsets. -/
  offsets : Shape
    | .arr [a, b] => uint32 a && uint32 b
    | _ => false

/-- A signature. -/
def signatureInformation : Shape := record
  [required "label" text, optional "documentation" documentation,
   optional "parameters" (listOf parameterInformation), optional "activeParameter" uint32]

/-- How the help was asked for, and what is shown already. -/
def signatureContext : Shape := record
  [required "triggerKind" kind, optional "triggerCharacter" text, required "isRetrigger" boolean,
   optional "activeSignatureHelp" active]
where
  /-- The help that is shown. -/
  active : Shape := record
    [required "signatures" (listOf signatureInformation), optional "activeSignature" uint32,
     optional "activeParameter" uint32]

/-! ## Items to be completed -/

/-- An offered completion. -/
def completionItem : Shape := record
  [required "label" text,
   optional "labelDetails" (record [optional "detail" text, optional "description" text]),
   optional "kind" kind, optional "detail" text, optional "documentation" documentation,
   optional "deprecated" boolean, optional "preselect" boolean, optional "sortText" text,
   optional "filterText" text, optional "insertText" text, optional "insertTextFormat" kind,
   optional "insertTextMode" kind, optional "textEdit" (either textEdit.shape twoWayEdit),
   optional "additionalTextEdits" (listOf textEdit.shape), optional "command" command.shape,
   optional "commitCharacters" (listOf text), optional "data" anything,
   optional "tags" (listOf kind)]
where
  /-- A text that may be inserted or replace what is there. -/
  twoWayEdit : Shape := record
    [required "newText" text, required "insert" range.shape, required "replace" range.shape]

/-- A hint shown inside a line. -/
def inlayHint : Shape := record
  [required "position" position.shape, required "label" (either text (listOf labelPart)),
   optional "kind" kind, optional "textEdits" (listOf textEdit.shape),
   optional "tooltip" documentation, optional "paddingLeft" boolean,
   optional "paddingRight" boolean, optional "data" anything]
where
  /-- A part of a hint. -/
  labelPart : Shape := record
    [required "value" text, optional "tooltip" documentation, optional "location" location.shape,
     optional "command" command.shape]

/-- A link in a document. -/
def documentLink : Shape := record
  [required "range" range.shape, optional "target" uri, optional "tooltip" text,
   optional "data" anything]

/-- A command shown beside a range. -/
def codeLens : Shape := record
  [required "range" range.shape, optional "command" command.shape, optional "data" anything]

/-- An action that changes code. -/
def codeAction : Shape := record
  [required "title" text, optional "kind" text, optional "diagnostics" (listOf diagnostic.shape),
   optional "edit" workspaceEdit.shape, optional "command" command.shape,
   optional "isPreferred" boolean, optional "disabled" (record [required "reason" text]),
   optional "data" anything]

/-! ## Formatting -/

/-- How to format; further options are truth values, numbers or strings. -/
def formattingOptions : Shape :=
  (object
    [required "tabSize" uint32, required "insertSpaces" boolean,
     optional "trimTrailingWhitespace" boolean, optional "insertFinalNewline" boolean,
     optional "trimFinalNewlines" boolean]).shapeWithOthers (either boolean numberOrText)

/-! ## All requests -/

/-- A color. -/
def color : Shape := record
  [required "red" number, required "green" number, required "blue" number,
   required "alpha" number]

/-- Files by their names. -/
def files (names : List String) : Shape :=
  record [required "files" (listOf (record (names.map (required · text))))]

/-- The requests that are known and not offered, with the shapes of their parameters. -/
def declined : List (String × Shape) :=
  [("textDocument/willSaveWaitUntil", record [document, required "reason" kind]),
   ("textDocument/declaration", call (place ++ resultProgress)),
   ("textDocument/definition", call (place ++ resultProgress)),
   ("textDocument/typeDefinition", call (place ++ resultProgress)),
   ("textDocument/implementation", call (place ++ resultProgress)),
   ("textDocument/references",
    call (place ++ resultProgress ++
      [required "context" (record [required "includeDeclaration" boolean])])),
   ("textDocument/prepareCallHierarchy", call (place ++ [progress])),
   ("callHierarchy/incomingCalls", hierarchyCalls),
   ("callHierarchy/outgoingCalls", hierarchyCalls),
   ("textDocument/prepareTypeHierarchy", call (place ++ [progress])),
   ("typeHierarchy/supertypes", hierarchyTypes),
   ("typeHierarchy/subtypes", hierarchyTypes),
   ("textDocument/documentHighlight", call (place ++ resultProgress)),
   ("textDocument/documentLink", call (document :: resultProgress)),
   ("documentLink/resolve", documentLink),
   ("textDocument/codeLens", call (document :: resultProgress)),
   ("codeLens/resolve", codeLens),
   ("textDocument/foldingRange", call (document :: resultProgress)),
   ("textDocument/selectionRange",
    call (document :: required "positions" (listOf position.shape) :: resultProgress)),
   ("textDocument/semanticTokens/full", call (document :: resultProgress)),
   ("textDocument/semanticTokens/full/delta",
    call (document :: required "previousResultId" text :: resultProgress)),
   ("textDocument/semanticTokens/range",
    call (document :: required "range" range.shape :: resultProgress)),
   ("textDocument/inlineValue",
    call [document, required "range" range.shape, progress,
      required "context"
        (record [required "frameId" int32, required "stoppedLocation" range.shape])]),
   ("textDocument/inlayHint", call [document, required "range" range.shape, progress]),
   ("inlayHint/resolve", inlayHint),
   ("textDocument/moniker", call (place ++ resultProgress)),
   ("completionItem/resolve", completionItem),
   ("textDocument/diagnostic",
    call (document :: optional "identifier" text :: optional "previousResultId" text ::
      resultProgress)),
   ("workspace/diagnostic",
    call (optional "identifier" text ::
      required "previousResultIds"
        (listOf (record [required "uri" uri, required "value" text])) ::
      resultProgress)),
   ("textDocument/signatureHelp",
    call (optional "context" signatureContext :: progress :: place)),
   ("textDocument/codeAction",
    call (document :: required "range" range.shape ::
      required "context"
        (record [required "diagnostics" (listOf diagnostic.shape),
          optional "only" (listOf text), optional "triggerKind" kind]) ::
      resultProgress)),
   ("codeAction/resolve", codeAction),
   ("textDocument/documentColor", call (document :: resultProgress)),
   ("textDocument/colorPresentation",
    call (document :: required "color" color :: required "range" range.shape ::
      resultProgress)),
   ("textDocument/formatting", call [document, required "options" formattingOptions, progress]),
   ("textDocument/rangeFormatting",
    call [document, required "range" range.shape, required "options" formattingOptions,
      progress]),
   ("textDocument/onTypeFormatting",
    call (place ++ [required "ch" text, required "options" formattingOptions])),
   ("textDocument/rename", call (place ++ [required "newName" text, progress])),
   ("textDocument/prepareRename", record place),
   ("textDocument/linkedEditingRange", call (place ++ [progress])),
   ("workspace/symbol", call (required "query" text :: resultProgress)),
   ("workspaceSymbol/resolve", workspaceSymbol),
   ("workspace/willCreateFiles", files ["uri"]),
   ("workspace/willRenameFiles", files ["oldUri", "newUri"]),
   ("workspace/willDeleteFiles", files ["uri"]),
   ("workspace/executeCommand",
    call [required "command" text, omissible "arguments" (listOf anything), progress])]

end Mhtml.Parameters
