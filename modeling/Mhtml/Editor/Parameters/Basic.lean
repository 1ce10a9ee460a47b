import Mhtml.Json.Shape
import Mhtml.Uri.Basic

/-!
# Parameters

The shapes of what messages carry: places in documents, edits, and what goes
with them. Numbers that stand for a kind of something may be any integer of 32
bits, since an editor may know kinds that the server does not.
-/

namespace Mhtml.Parameters

open Shape Member

variable [Uri.Reader]

/-- An identifier of a document. -/
def uri : Shape :=
  fun v => v.str?.any Uri.isValid

/-- A number that stands for a kind of something. -/
def kind : Shape := int32

/-- A number or a string. -/
def numberOrText : Shape := either int32 text

/-! ## Places -/

/-- A position in a document. -/
def position : Layout where
  members := [required "line" uint32, required "character" uint32]

/-- A range between two positions. -/
def range : Layout where
  members := [required "start" position.shape, required "end" position.shape]

/-- A range of some document. -/
def location : Layout where
  members := [required "uri" uri, required "range" range.shape]

/-! ## Documents -/

/-- A document by its identifier. -/
def documentId : Layout where
  members := [required "uri" uri]

/-- A version of a document. -/
def versionedId : Layout where
  members := [required "uri" uri, required "version" int32]

/-- A version of a document that may be unknown. -/
def optionalVersionedId : Layout where
  members := [required "uri" uri, optional "version" int32]

/-- A document with its text. -/
def documentItem : Layout where
  members :=
    [required "uri" uri, required "languageId" text, required "version" int32, required "text" text]

/-- A change of a document, with the text that it leads to. -/
def change : Layout where
  members := [optional "range" range.shape, optional "rangeLength" uint32, required "text" text]

/-! ## What requests have in common -/

/-- The document that a request is about. -/
def document : Member := required "textDocument" documentId.shape

/-- The document and the position that a request is about. -/
def place : List Member := [document, required "position" position.shape]

/-- Where to report progress. -/
def progress : Member := optional "workDoneToken" numberOrText

/-- Where to report progress and parts of the result. -/
def resultProgress : List Member := [progress, optional "partialResultToken" numberOrText]

/-- Parameters that come as an object only. -/
def object (members : List Member) : Layout :=
  { members, isPositional := false }

/-! ## Contents -/

/-- A text with its format. -/
def markup : Layout where
  members := [required "kind" (oneOf ["plaintext", "markdown"]), required "value" text]

/-- A text that may have a format. -/
def documentation : Shape := either text markup.shape

/-- A command that the editor may run. -/
def command : Layout where
  members :=
    [required "title" text, required "command" text, optional "arguments" (listOf anything)]

/-- A text put in place of a range. -/
def textEdit : Layout where
  members := [required "range" range.shape, required "newText" text]

/-- A diagnostic as an editor knows it. -/
def diagnostic : Layout where
  members :=
    [required "range" range.shape, optional "severity" kind, optional "code" numberOrText,
     optional "codeDescription" codeDescription.shape, optional "source" text,
     required "message" text, optional "relatedInformation" (listOf related.shape),
     optional "tags" (listOf kind), optional "data" anything]
where
  /-- Where a code is described. -/
  codeDescription : Layout := { members := [required "href" uri] }
  /-- A place that has to do with a diagnostic. -/
  related : Layout := { members := [required "location" location.shape, required "message" text] }

/-! ## Edits of a workspace -/

/-- What to do if a file is there already. -/
def fileOptions : Layout where
  members := [optional "overwrite" boolean, optional "ignoreIfExists" boolean]

/-- The edits of one document. -/
def documentEdit : Layout where
  members :=
    [required "textDocument" optionalVersionedId.shape, required "edits" (listOf textEdit.shape)]

/-- A file that is created, renamed or deleted. What is done stands in the member `kind` of an
object, or before the members of an array. -/
def fileOperation : Shape :=
  fun v => match v with
    | .obj _ => ((v.member? "kind").bind layout?).any (·.shape v)
    | .arr (kind :: items) => (layout? kind).any (·.shape (.arr items))
    | _ => false
where
  /-- The members of an operation, which a word or its number tells. -/
  layout? : Json → Option Layout
    | .str "create" | .int 0 => some createFile
    | .str "rename" | .int 1 => some renameFile
    | .str "delete" | .int 2 => some deleteFile
    | _ => none
  /-- A file to create. -/
  createFile : Layout :=
    { members :=
        [required "uri" uri, optional "options" fileOptions.shape, optional "annotationId" text] }
  /-- A file to rename. -/
  renameFile : Layout :=
    { members :=
        [required "oldUri" uri, required "newUri" uri, optional "options" fileOptions.shape,
         optional "annotationId" text] }
  /-- A file to delete. -/
  deleteFile : Layout :=
    { members := [required "uri" uri, optional "options" deleteOptions.shape] }
  /-- How to delete. -/
  deleteOptions : Layout :=
    { members :=
        [optional "recursive" boolean, optional "ignoreIfNotExists" boolean,
         optional "annotationId" text] }

/-- Edits of several documents. -/
def workspaceEdit : Layout where
  members :=
    [defaulted "changes" (mapOf Uri.isValid (listOf textEdit.shape)),
     optional "documentChanges"
      (either (listOf documentEdit.shape) (listOf (either fileOperation documentEdit.shape))),
     optional "changeAnnotations" (mapOf (fun _ => true) annotation.shape)]
where
  /-- What is said about a change. -/
  annotation : Layout :=
    { members :=
        [required "label" text, optional "needsConfirmation" boolean, optional "description" text] }

end Mhtml.Parameters
