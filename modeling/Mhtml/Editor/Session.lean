import Mhtml.Grammar.Validation
import Mhtml.Editor.Completion
import Mhtml.Editor.Hover
import Mhtml.Editor.Message
import Mhtml.Editor.Outline
import Mhtml.Editor.Store

/-!
# Sessions with an editor

A session is what the server knows between two messages. `Session.receive`
takes one message to the session after it, the answer to it and the notices
sent to the editor. Whenever a text is stored its diagnostics are published with
its version, and when it is closed they are withdrawn. What is no message is
refused, and the session is over. What the server offers is told in section G of the
specification.
-/

namespace Mhtml

/-- How far a session has come. -/
inductive Stage where
  /-- Nothing has been agreed on yet. -/
  | fresh
  /-- The server does its work. -/
  | running
  /-- The server waits for the end. -/
  | shutDown
  /-- The session is over. -/
  | exited
deriving DecidableEq, Repr

/-- What a server knows between two messages. -/
structure Session where
  /-- How far the session has come. -/
  stage : Stage := .fresh
  /-- The open documents. -/
  documents : Store := ∅
  /-- The level down to which nesting is checked and outlines go. -/
  limit : Nat := defaultDepthLimit

/-- Why a request is refused. -/
inductive Refusal where
  /-- The session has not been initialized. -/
  | notInitialized
  /-- The request does not fit the stage of the session. -/
  | invalidRequest
  /-- There is no such method. -/
  | methodNotFound
  /-- The parameters cannot be read. -/
  | invalidParams
  /-- What arrived is not JSON. -/
  | notJson
deriving DecidableEq, Repr

/-- The number that stands for a refusal in answers. -/
def Refusal.code : Refusal → Int
  | notInitialized => -32002
  | invalidRequest => -32600
  | methodNotFound => -32601
  | invalidParams => -32602
  | notJson => -32700

/-- The wording of a refusal. -/
def Refusal.message : Refusal → String
  | notInitialized => "Server not initialized"
  | invalidRequest => "Invalid request"
  | methodNotFound => "Method not found"
  | invalidParams => "Invalid params"
  | notJson => "Parse error"

/-- The result of a request. -/
inductive Outcome where
  /-- What the server can do. -/
  | capabilities
  /-- Nothing to tell. -/
  | done
  /-- What to show, if anything. -/
  | hover (hover? : Option Hover)
  /-- What to offer. -/
  | completion (items : List CompletionItem)
  /-- The outline, if the document is open. -/
  | outline (outline? : Option Outline)

/-- The answer to a message. -/
inductive Answer where
  /-- None is due. -/
  | silence
  /-- The request is refused. -/
  | refusal (reason : Refusal)
  /-- The request is granted. -/
  | result (outcome : Outcome)
  /-- The session is over. -/
  | gone

/-- Something the server tells the editor unasked. -/
inductive Notice where
  /-- The diagnostics of a document, with the version they are about. -/
  | publish (uri : String) (diagnostics : List Diagnostic) (version? : Option Int)
  /-- A message for the editor's log. -/
  | log (message : String)
deriving DecidableEq, Repr

/-- What a message leads to. -/
structure Turn where
  /-- The session afterwards. -/
  session : Session
  /-- The answer to the message. -/
  answer : Answer := .silence
  /-- The notices sent, in order. -/
  sent : List Notice := []

/-- The name that the server gives itself. -/
def serverName : String := "mhtml-language-server"

/-- The version of the server. -/
def serverVersion : String := "0.1.0"

namespace Session

/-- A notice, unless it is too early or too late for one. -/
def send (s : Session) (notice : Notice) : List Notice :=
  match s.stage with
  | .running | .shutDown => [notice]
  | .fresh | .exited => []

/-- The notice with the diagnostics of a document, unless it has been closed or has moved on since
they were collected. -/
def report (s : Session) (uri : String) (batch : Batch) : List Notice :=
  match s.documents.get? uri with
  | some current =>
    if batch.Stale current.version then []
    else s.send (.publish uri batch.diagnostics (some batch.version))
  | none => []

/-- Collects the diagnostics of an open document and reports them. The document is looked up twice:
a newer text may arrive while the pass is running. -/
def publish (s : Session) (uri : String) : List Notice :=
  match s.documents.get? uri with
  | some stored => s.report uri (stored.batch uri s.limit)
  | none => []

/-- The notice that a document has no diagnostics any more. -/
def withdraw (s : Session) (uri : String) : List Notice :=
  s.send (.publish uri [] none)

/-- Stores a text and publishes its diagnostics, unless the write is refused. -/
def store (s : Session) (uri : String) (new : StoredText) : Turn :=
  match s.documents.write? uri new with
  | some documents =>
    let after := { s with documents }
    { session := after, sent := after.publish uri }
  | none => { session := s }

/-- Does what is asked of a running server. -/
def act (s : Session) : Action → Turn
  | .ready => { session := s, sent := s.send (.log (serverName ++ " initialized")) }
  | .openText uri version text => s.store uri (.ofText text version)
  | .changeText uri version texts =>
    match texts.getLast? with
    | some text => s.store uri (.ofText text version)
    | none => { session := s }
  | .closeText uri =>
    let after := { s with documents := s.documents.erase uri }
    { session := after, sent := after.withdraw uri }
  | .hover uri p =>
    let hover? := (s.documents.get? uri).bind fun stored =>
      stored.document.hoverAt? stored.source p
    { session := s, answer := .result (.hover hover?) }
  | .completion uri p =>
    let items := match s.documents.get? uri with
      | some stored => completionAt stored.source p
      | none => completionItems .anywhere
    { session := s, answer := .result (.completion items) }
  | .outline uri =>
    let outline? := (s.documents.get? uri).map fun stored =>
      stored.document.outline stored.source s.limit
    { session := s, answer := .result (.outline outline?) }

/-- Refuses a request; a notification is passed over. -/
def refuse (s : Session) (m : Message) (reason : Refusal) : Turn :=
  { session := s, answer := if m.isRequest then .refusal reason else .silence }

/-- Why a session that is not running refuses requests. -/
def notRunning (s : Session) : Refusal :=
  if s.stage = .fresh then .notInitialized else .invalidRequest

section Receiving

variable [Uri.Reader]

/-- Takes the setup, which is due once and first. -/
def receiveSetup (s : Session) (m : Message) : Turn :=
  if s.stage ≠ .fresh then s.refuse m .invalidRequest
  else if !m.isRequest then { session := s }
  else if m.params?.any Parameters.setup then
    { session := { s with stage := .running }, answer := .result .capabilities }
  else s.refuse m .invalidParams

/-- Takes the request to shut down, which has no parameters. -/
def receiveShutdown (s : Session) (m : Message) : Turn :=
  if s.stage ≠ .running then s.refuse m s.notRunning
  else
    let after := { s with stage := .shutDown }
    if !m.isRequest then { session := after }
    else if m.params?.isSome then after.refuse m .invalidParams
    else { session := after, answer := .result .done }

/-- Takes a method that only a running server answers. -/
def receiveAction (s : Session) (method : Method) (m : Message) : Turn :=
  if s.stage ≠ .running then s.refuse m s.notRunning
  else if method.isNotification = m.isRequest then s.refuse m .invalidRequest
  else
    match Action.decode? method m.params? with
    | some action => s.act action
    | none => s.refuse m .invalidParams

/-- Takes a notification that is of no interest. -/
def receiveUnheeded (s : Session) (m : Message) : Turn :=
  if s.stage ≠ .running then s.refuse m s.notRunning else s.refuse m .invalidRequest

/-- Takes a request that the server knows by name but does not offer. -/
def receiveDeclined (s : Session) (m : Message) : Turn :=
  if s.stage ≠ .running then s.refuse m s.notRunning
  else
    match m.params?, Parameters.declined.lookup m.method with
    | some params, some shape =>
      s.refuse m (if shape params then .methodNotFound else .invalidParams)
    | _, _ => s.refuse m .invalidParams

/-- Takes a method that the protocol does not have. Those whose name starts with `$/` may be
passed over. -/
def receiveUnknown (s : Session) (m : Message) : Turn :=
  if ['$', '/'].isPrefixOf m.method.toList then { session := s }
  else s.refuse m .methodNotFound

/-- Takes a message. -/
def receive (s : Session) (m : Message) : Turn :=
  if s.stage = .exited then { session := s, answer := .gone }
  else
    match Method.ofName m.method with
    | .exit => { session := { s with stage := .exited } }
    | .setup => s.receiveSetup m
    | .shutdown => s.receiveShutdown m
    | .cancel => s.refuse m .invalidRequest
    | .unheeded => s.receiveUnheeded m
    | .declined => s.receiveDeclined m
    | .unknown => s.receiveUnknown m
    | method => s.receiveAction method m

/-- Refuses what is no message and ends the session. -/
def breakOff (s : Session) (reason : Refusal) : Turn :=
  if s.stage = .exited then { session := s, answer := .gone }
  else { session := { s with stage := .exited }, answer := .refusal reason }

/-- Takes what arrives. After something that is no message nothing more is read. -/
def take (s : Session) : Incoming → Turn
  | .message m => s.receive m
  | .invalid => s.breakOff .invalidRequest
  | .garbled => s.breakOff .notJson

end Receiving

end Session

end Mhtml
