import Mhtml.Span
import Mhtml.Tag

/-!
# Element trees

A forest is a run of sibling nodes: text, or an element with a forest of
children. It is one inductive type, each node followed by the rest of its
siblings, so that recursion and induction over whole documents are plain.
`Forest.preorder` lists the elements in document order.
-/

namespace Mhtml

/-- How an element ends. -/
inductive Ending where
  /-- By its own opening tag, as in `<meta/>`. -/
  | selfClosing
  /-- Not at all: no closing tag was found for it. -/
  | unclosed
  /-- By the closing tag at this span. -/
  | closed (span : Span)
deriving DecidableEq, Repr

/-- An element's name and where its tags stand. -/
structure ElementTags where
  /-- The element's name. -/
  tag : Tag
  /-- The span of the opening tag. -/
  opening : Span
  /-- How the element ends. -/
  ending : Ending
deriving DecidableEq, Repr

namespace ElementTags

/-- The span of the closing tag, if there is one. -/
def closing? (e : ElementTags) : Option Span :=
  match e.ending with
  | .closed span => some span
  | _ => none

/-- Whether the element has both tags. -/
def isPaired (e : ElementTags) : Bool :=
  e.closing?.isSome

/-- Whether the element is a single self-closing tag. -/
def isSelfClosing (e : ElementTags) : Bool :=
  e.ending == .selfClosing

/-- What lies between the two tags. -/
def inner? (e : ElementTags) : Option Span :=
  e.closing?.map fun closing => ⟨e.opening.stop, closing.start⟩

/-- The whole element, its tags included. -/
def outer (e : ElementTags) : Span :=
  ⟨e.opening.start, (e.closing?.getD e.opening).stop⟩

/-- Whether one of the element's tags covers `offset`. -/
def covers (e : ElementTags) (offset : Nat) : Bool :=
  decide (offset ∈ e.opening) || e.closing?.any (decide <| offset ∈ ·)

end ElementTags

/-- A run of sibling nodes. -/
inductive Forest where
  /-- No node. -/
  | nil
  /-- Text at a span, then the rest. -/
  | text (span : Span) (rest : Forest)
  /-- An element with its children, then the rest. -/
  | element (tags : ElementTags) (children rest : Forest)
deriving DecidableEq, Repr, Inhabited

/-- An element with what it holds. -/
structure Element extends ElementTags where
  /-- The nodes between its tags. -/
  children : Forest
deriving DecidableEq, Repr

/-- A single node. -/
inductive Node where
  /-- Text at a span. -/
  | text (span : Span)
  /-- An element. -/
  | element (e : Element)
deriving DecidableEq, Repr

namespace Forest

/-- Puts a node before its siblings. -/
def cons : Node → Forest → Forest
  | .text span, rest => text span rest
  | .element e, rest => element e.toElementTags e.children rest

/-- The forest of some nodes given last to first. -/
def ofReversed (nodes : List Node) : Forest :=
  nodes.foldl (fun rest node => cons node rest) nil

/-- The elements of the run itself, without what they hold. -/
def elements : Forest → List Element
  | nil => []
  | text _ rest => rest.elements
  | element tags children rest => ⟨tags, children⟩ :: rest.elements

/-- All elements, each before what it holds and after what precedes it. -/
def preorder : Forest → List Element
  | nil => []
  | text _ rest => rest.preorder
  | element tags children rest => ⟨tags, children⟩ :: (children.preorder ++ rest.preorder)

/-- The number of elements at all depths. -/
def size : Forest → Nat
  | nil => 0
  | text _ rest => rest.size
  | element _ children rest => children.size + rest.size + 1

theorem size_eq_length_preorder (f : Forest) : f.size = f.preorder.length := by
  induction f with
  | nil => rfl
  | text _ _ ih => exact ih
  | element _ _ _ ihc ihr => simp only [size, preorder, List.length_cons, List.length_append, ihc, ihr]

end Forest

end Mhtml
