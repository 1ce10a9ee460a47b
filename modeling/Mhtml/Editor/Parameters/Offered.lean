import Mhtml.Editor.Parameters.Basic
import Mhtml.Editor.Parameters.Capabilities

/-!
# Parameters of messages that the server acts on

The setup of a session, the notifications about open documents, and the requests
that the server answers.
-/

namespace Mhtml.Parameters

open Shape Member

variable [Uri.Reader]

/-- The parameters of the setup. -/
def setup : Shape := record
  [optional "processId" uint32, optional "rootPath" text, defaulted "rootUri" uri,
   optional "initializationOptions" anything, required "capabilities" Capabilities.all,
   defaulted "trace" (oneOf ["off", "messages", "verbose"]),
   optional "workspaceFolders"
    (listOf (record [required "uri" uri, required "name" text])),
   optional "clientInfo" (record [required "name" text, optional "version" text]),
   optional "locale" text]

/-- The parameters of the editor's word that it is ready. -/
def ready : Layout where
  members := []

/-- The parameters of an opened document. -/
def didOpen : Layout where
  members := [required "textDocument" documentItem.shape]

/-- The parameters of a changed document. -/
def didChange : Layout where
  members :=
    [required "textDocument" versionedId.shape, required "contentChanges" (listOf change.shape)]

/-- The parameters of a closed document. -/
def didClose : Layout where
  members := [document]

/-- The parameters of a hover. -/
def hover : Layout :=
  object (place ++ [progress])

/-- The parameters of a completion. -/
def completion : Layout :=
  object (place ++ resultProgress ++ [optional "context" context])
where
  /-- How the completion was asked for. -/
  context : Shape := record [required "triggerKind" kind, optional "triggerCharacter" text]

/-- The parameters of an outline. -/
def documentSymbol : Layout :=
  object (document :: resultProgress)

end Mhtml.Parameters
