import Mhtml.Json.Basic
import Mhtml.Editor.Session

/-!
# Answers on the wire

The JSON form of what the server tells an editor. Members that have nothing to
say are left out.
-/

namespace Mhtml

/-- The JSON form of a position. -/
def Position.toJson (p : Position) : Json :=
  .obj [("line", .nat p.line), ("character", .nat p.character)]

/-- The JSON form of a range. -/
def Range.toJson (r : Range) : Json :=
  .obj [("start", r.start.toJson), ("end", r.stop.toJson)]

/-- The JSON form of a diagnostic in a report. -/
def Diagnostic.toJson (d : Diagnostic) : Json :=
  .obj [("severity", .nat d.severity.code), ("range", d.range.toJson), ("message", .str d.message)]

/-- The JSON form of a report. -/
def Batch.toJson (b : Batch) : Json :=
  .obj [("uri", .str b.uri), ("version", .int b.version),
    ("diagnostics", .arr (b.diagnostics.map Diagnostic.toJson))]

/-- The name under which diagnostics appear in an editor. -/
def diagnosticSource : String := "mhtml-ls"

/-- The JSON form of a diagnostic for an editor, which names its source. -/
def Diagnostic.toNoticeJson (d : Diagnostic) : Json :=
  .obj [("range", d.range.toJson), ("severity", .nat d.severity.code),
    ("source", .str diagnosticSource), ("message", .str d.message)]

/-- A text to be shown as Markdown. -/
def markdown (text : String) : Json :=
  .obj [("kind", .str "markdown"), ("value", .str text)]

/-- The JSON form of an offered completion; 15 is the kind of a snippet. -/
def CompletionItem.toJson (i : CompletionItem) : Json :=
  .obj [("label", .str i.snippet.label), ("kind", .nat 15),
    ("detail", .str i.snippet.description),
    ("documentation", markdown ("```mhtml\n" ++ i.snippet.template ++ "\n```")),
    ("insertText", .str i.insertText),
    ("insertTextFormat", .nat (if i.hasTabStops then 2 else 1))]

/-- The JSON form of a hover. -/
def Hover.toJson (h : Hover) : Json :=
  .obj [("contents", markdown ("**<" ++ h.snippet.label ++ ">**\n\n" ++ h.snippet.description)),
    ("range", h.range.toJson)]

/-- The members of a symbol's JSON form, those below it apart. A paired element has the kind of a
structure, 23, and another one that of a field, 8. -/
def OutlineSymbol.members (o : OutlineSymbol) : List (String × Json) :=
  [("name", .str o.name)] ++
    o.detail?.toList.map (fun detail => ("detail", .str detail)) ++
    [("kind", .nat (if o.isPaired then 23 else 8)), ("deprecated", .bool false),
     ("range", o.range.toJson), ("selectionRange", o.selection.toJson)]

/-- The JSON forms of the symbols of an outline. -/
def Outline.toJson : Outline → List Json
  | nil => []
  | entry symbol children rest =>
    let below := if children.isEmpty then [] else [("children", .arr children.toJson)]
    .obj (symbol.members ++ below) :: rest.toJson

/-- What the server can do, and its name. -/
def capabilities : Json :=
  .obj
    [("capabilities", .obj
      [("textDocumentSync", .nat 1),
       ("hoverProvider", .bool true),
       ("completionProvider", .obj
         [("resolveProvider", .bool false),
          ("triggerCharacters", .arr (completionTriggers.map fun c => .str c.toString))]),
       ("documentSymbolProvider", .bool true)]),
     ("serverInfo", .obj [("name", .str serverName), ("version", .str serverVersion)])]

/-- The JSON form of a result. -/
def Outcome.toJson : Outcome → Json
  | capabilities => Mhtml.capabilities
  | done => .null
  | hover hover? => hover?.elim .null Hover.toJson
  | completion items => .arr (items.map CompletionItem.toJson)
  | outline outline? => outline?.elim .null fun o => .arr o.toJson

namespace Notice

/-- The method of a notice. -/
def method : Notice → String
  | publish .. => "textDocument/publishDiagnostics"
  | log _ => "window/logMessage"

/-- The parameters of a notice. A log message has the type of an information, 3. -/
def params : Notice → Json
  | publish uri diagnostics version? =>
    .obj ([("uri", .str uri), ("diagnostics", .arr (diagnostics.map Diagnostic.toNoticeJson))] ++
      version?.toList.map fun version => ("version", .int version))
  | log message => .obj [("type", .nat 3), ("message", .str message)]

/-- A notice as a message. -/
def toJson (n : Notice) : Json :=
  .obj [("jsonrpc", .str "2.0"), ("method", .str n.method), ("params", n.params)]

end Notice

/-- The answer to a request as a message, if one is due. -/
def Answer.toJson? (id : Json) : Answer → Option Json
  | result outcome => some (.obj [("jsonrpc", .str "2.0"), ("result", outcome.toJson), ("id", id)])
  | refusal reason =>
    some (.obj [("jsonrpc", .str "2.0"),
      ("error", .obj [("code", .int reason.code), ("message", .str reason.message)]), ("id", id)])
  | silence => none
  | gone => none

/-- The messages that a turn sends to the editor, its answer first. -/
def Turn.messages (t : Turn) (i : Incoming) : List Json :=
  ((i.id?.bind fun id => t.answer.toJson? id).toList) ++ t.sent.map Notice.toJson

end Mhtml
