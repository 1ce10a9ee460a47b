import Mhtml.Text.Blank
import Mhtml.Grammar.Nesting

/-!
# Outlines

The outline of a document has a symbol for each element, nested like the
elements, down to a number of levels. An element that holds text and no element
shows that text beside its name.
-/

namespace Mhtml

/-- An element in an outline. -/
structure OutlineSymbol where
  /-- The element's name. -/
  name : String
  /-- The text it holds, if it holds no element. -/
  detail? : Option String
  /-- Whether the element has both tags. -/
  isPaired : Bool
  /-- The whole element. -/
  range : Range
  /-- Its opening tag. -/
  selection : Range
deriving DecidableEq, Repr

/-- A run of sibling symbols. -/
inductive Outline where
  /-- No symbol. -/
  | nil
  /-- A symbol with those below it, then the rest. -/
  | entry (symbol : OutlineSymbol) (children rest : Outline)
deriving DecidableEq, Repr, Inhabited

/-- Whether there is no symbol. -/
def Outline.isEmpty : Outline → Bool
  | nil => true
  | entry .. => false

/-- The source text between the tags of a paired element. -/
def Element.innerText? (e : Element) (s : Source) : Option (List Char) :=
  e.inner?.bind s.slice?

/-- The text of an element that holds text and no element, without surrounding blanks. -/
def Element.detail? (e : Element) (s : Source) : Option String :=
  if e.children.elements.isEmpty then
    let trimmed := (e.innerText? s).map (trimBoth isBlank)
    (trimmed.filter (!·.isEmpty)).map String.ofList
  else none

/-- The symbol of an element. -/
def Element.symbol (e : Element) (s : Source) : OutlineSymbol where
  name := e.tag.name
  detail? := e.detail? s
  isPaired := e.isPaired
  range := s.range e.outer
  selection := s.range e.opening

/-- The outline of a forest down to `levels` levels; the first one is always there. -/
def Forest.outline (s : Source) (levels : Nat) : Forest → Outline
  | .nil => .nil
  | .text _ rest => rest.outline s levels
  | .element tags children rest =>
    let below := if 1 < levels then children.outline s (levels - 1) else .nil
    .entry (Element.symbol ⟨tags, children⟩ s) below (rest.outline s levels)

/-- The outline of a document with its source. -/
def Document.outline (d : Document) (s : Source) (levels : Nat) : Outline :=
  d.nodes.outline s levels

end Mhtml
