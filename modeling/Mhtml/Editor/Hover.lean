import Mhtml.Document
import Mhtml.Source.Basic
import Mhtml.Editor.Snippet

/-!
# Hover

Over a tag of an element that the grammar speaks about, an editor shows the
element's description. Stray closing tags belong to no element and show
nothing.
-/

namespace Mhtml

/-- What is shown over a tag. -/
structure Hover where
  /-- The snippet that describes the element. -/
  snippet : Snippet
  /-- The tag under the cursor. -/
  range : Range
deriving DecidableEq, Repr

/-- The tag of an element that covers `offset`, the opening tag if neither does. -/
def ElementTags.tagAt (e : ElementTags) (offset : Nat) : Span :=
  if offset ∈ e.opening then e.opening else e.closing?.getD e.opening

/-- What is shown at a position of a document with its source. -/
def Document.hoverAt? (d : Document) (s : Source) (p : Position) : Option Hover := do
  let offset ← s.offset? p
  let e ← d.elementAt? offset
  let snippet ← Snippet.for? e.tag.name
  return ⟨snippet, s.range (e.tagAt offset)⟩

end Mhtml
