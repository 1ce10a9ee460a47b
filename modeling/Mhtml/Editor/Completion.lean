import Mhtml.Source.Basic
import Mhtml.Editor.Snippet

/-!
# Completion

Every snippet is offered everywhere. What is inserted depends on what stands
right before the cursor, so that a bracket which is there already is not
inserted again: after `</` the rest of a closing tag, after `<` the template
without its first bracket, and the whole template otherwise.
-/

namespace Mhtml

/-- What stands right before the cursor. -/
inductive CompletionContext where
  /-- The start of a closing tag, `</`. -/
  | closingTag
  /-- The start of a tag, `<`. -/
  | openingTag
  /-- Anything else. -/
  | anywhere
deriving DecidableEq, Repr

/-- The context after a text. -/
def CompletionContext.after (text : List Char) : CompletionContext :=
  if ['<', '/'].isSuffixOf text then .closingTag
  else if ['<'].isSuffixOf text then .openingTag
  else .anywhere

/-- The characters at which an editor asks for completion by itself. -/
def completionTriggers : List Char := ['<', '/']

/-- Something offered for insertion. -/
structure CompletionItem where
  /-- The snippet it comes from. -/
  snippet : Snippet
  /-- The text to insert. -/
  insertText : String
  /-- Whether the text has tab stops. -/
  hasTabStops : Bool
deriving DecidableEq, Repr

/-- A template without the brackets that it starts with. -/
def Snippet.unbracketed (s : Snippet) : String :=
  String.ofList (s.template.toList.dropWhile (· == '<'))

/-- What a snippet offers in a context. -/
def Snippet.item (s : Snippet) : CompletionContext → CompletionItem
  | .closingTag => ⟨s, s.label ++ ">", false⟩
  | .openingTag => ⟨s, s.unbracketed, true⟩
  | .anywhere => ⟨s, s.template, true⟩

/-- All that is offered in a context. -/
def completionItems (context : CompletionContext) : List CompletionItem :=
  Snippet.all.map (·.item context)

/-- The text of a line before a position, if the position lies within the source. -/
def Source.linePrefix? (s : Source) (p : Position) : Option (List Char) := do
  let lineStart ← s.offset? ⟨p.line, 0⟩
  let cursor ← s.offset? p
  s.slice? ⟨lineStart, cursor⟩

/-- What is offered at a position of a source. -/
def completionAt (s : Source) (p : Position) : List CompletionItem :=
  completionItems (.after ((s.linePrefix? p).getD []))

end Mhtml
