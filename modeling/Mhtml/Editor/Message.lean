import Mhtml.Source.Position
import Mhtml.Editor.Parameters.Offered
import Mhtml.Editor.Parameters.Requests

/-!
# Messages from an editor

A message names a method and may carry an identifier and parameters. With an
identifier it is a request and wants an answer, without one it is a
notification. `Incoming` is what arrives, be it a message or not, and
`Action.decode?` reads the parameters of the methods that the server offers while
it is running.
-/

namespace Mhtml

/-- A message as received. -/
structure Message where
  /-- The name of the method. -/
  method : String
  /-- The identifier of a request. -/
  id? : Option Json
  /-- The parameters. -/
  params? : Option Json

namespace Message

/-- Whether the message wants an answer. -/
def isRequest (m : Message) : Bool :=
  m.id?.isSome

/-- What may identify a request: an integer of 64 bits, a string or `null`. -/
def isId : Json → Bool
  | .int n => -0x8000000000000000 ≤ n && n < 0x8000000000000000
  | .str _ | .null => true
  | _ => false

/-- Reads a message. -/
def ofJson? (v : Json) : Option Message := do
  let method ← (← v.member? "method").str?
  let id? := v.member? "id"
  guard (id?.all isId)
  return { method, id?, params? := v.member? "params" }

end Message

/-- What arrives from an editor. -/
inductive Incoming where
  /-- A message. -/
  | message (m : Message)
  /-- A JSON value that is no message. -/
  | invalid
  /-- A text that is not JSON. -/
  | garbled

namespace Incoming

/-- What a JSON value is. -/
def ofJson (v : Json) : Incoming :=
  match Message.ofJson? v with
  | some m => message m
  | none => invalid

/-- What an answer has to name: the identifier of a request, or `null` in place of one that cannot
be read. -/
def id? : Incoming → Option Json
  | message m => m.id?
  | invalid | garbled => some .null

end Incoming

/-- A method by name. -/
inductive Method where
  /-- The agreement that starts a session. -/
  | setup
  /-- The editor's word that it is ready. -/
  | ready
  | shutdown
  | exit
  | didOpen
  | didChange
  | didClose
  | hover
  | completion
  | documentSymbol
  /-- The word that a request is wanted no longer. -/
  | cancel
  /-- A notification that is of no interest to the server. -/
  | unheeded
  /-- A request of the protocol that the server does not offer. -/
  | declined
  /-- A name that the protocol does not have. -/
  | unknown
deriving DecidableEq, Repr

namespace Method

variable [Uri.Reader]

/-- The notifications that are of no interest to the server. -/
def unheededNames : List String :=
  ["textDocument/willSave", "textDocument/didSave", "workspace/didChangeConfiguration",
   "workspace/didChangeWorkspaceFolders", "workspace/didCreateFiles", "workspace/didRenameFiles",
   "workspace/didDeleteFiles", "workspace/didChangeWatchedFiles"]

/-- The method with a name. -/
def ofName : String → Method
  | "initialize" => setup
  | "initialized" => ready
  | "shutdown" => shutdown
  | "exit" => exit
  | "textDocument/didOpen" => didOpen
  | "textDocument/didChange" => didChange
  | "textDocument/didClose" => didClose
  | "textDocument/hover" => hover
  | "textDocument/completion" => completion
  | "textDocument/documentSymbol" => documentSymbol
  | "$/cancelRequest" => cancel
  | name =>
    if unheededNames.contains name then unheeded
    else if (Parameters.declined.lookup name).isSome then declined
    else unknown

/-- Whether the method is a notification: it changes something and wants no answer. -/
def isNotification : Method → Bool
  | ready | exit | didOpen | didChange | didClose | cancel | unheeded => true
  | _ => false

/-- How the parameters of a method are laid out that a running server acts on. -/
def parameters? : Method → Option Layout
  | ready => some Parameters.ready
  | didOpen => some Parameters.didOpen
  | didChange => some Parameters.didChange
  | didClose => some Parameters.didClose
  | hover => some Parameters.hover
  | completion => some Parameters.completion
  | documentSymbol => some Parameters.documentSymbol
  | _ => none

end Method

/-- What a message asks of a running server. Documents go by the normal forms of their
identifiers. -/
inductive Action where
  /-- Nothing but to take note that the editor is ready. -/
  | ready
  /-- To store a text. -/
  | openText (uri : String) (version : Int) (text : List Char)
  /-- To store the last of some texts. -/
  | changeText (uri : String) (version : Int) (texts : List (List Char))
  /-- To forget a text. -/
  | closeText (uri : String)
  /-- What to show at a position. -/
  | hover (uri : String) (p : Position)
  /-- What to offer at a position. -/
  | completion (uri : String) (p : Position)
  /-- The outline of a text. -/
  | outline (uri : String)
deriving DecidableEq, Repr

namespace Action

variable [Uri.Reader]

/-- The text of a member. -/
def textOf? (layout : Layout) (name : String) (v : Json) : Option (List Char) :=
  ((layout.get? name v).bind Json.str?).map String.toList

/-- The identifier of a document in its normal form. -/
def uriOf? (layout : Layout) (v : Json) : Option String :=
  ((layout.get? "uri" v).bind Json.str?).bind Uri.Reader.normal?

/-- The version of a document. -/
def versionOf? (layout : Layout) (v : Json) : Option Int :=
  (layout.get? "version" v).bind Json.int32?

/-- A position. -/
def positionOf? (v : Json) : Option Position := do
  let line ← (Parameters.position.get? "line" v).bind Json.uint32?
  let character ← (Parameters.position.get? "character" v).bind Json.uint32?
  return ⟨line, character⟩

/-- What parameters of the right layout ask for. -/
def ofParameters? (layout : Layout) (params : Json) : Method → Option Action
  | .ready => some .ready
  | .didOpen => do
    let document ← layout.get? "textDocument" params
    let item := Parameters.documentItem
    return .openText (← uriOf? item document) (← versionOf? item document)
      (← textOf? item "text" document)
  | .didChange => do
    let document ← layout.get? "textDocument" params
    let changes ← (layout.get? "contentChanges" params).bind Json.items?
    let version := Parameters.versionedId
    return .changeText (← uriOf? version document) (← versionOf? version document)
      (← changes.mapM (textOf? Parameters.change "text"))
  | .didClose => (uri? params).map closeText
  | .hover => do return .hover (← uri? params) (← position? params)
  | .completion => do return .completion (← uri? params) (← position? params)
  | .documentSymbol => (uri? params).map outline
  | _ => none
where
  /-- The identifier of the document that the parameters are about. -/
  uri? (params : Json) : Option String :=
    (layout.get? "textDocument" params).bind (uriOf? Parameters.documentId)
  /-- The position that the parameters are about. -/
  position? (params : Json) : Option Position :=
    (layout.get? "position" params).bind positionOf?

/-- Reads the parameters of a method that a running server acts on. -/
def decode? (method : Method) (params? : Option Json) : Option Action := do
  let params ← params?
  let layout ← method.parameters?
  guard (layout.shape params)
  ofParameters? layout params method

end Action

end Mhtml
