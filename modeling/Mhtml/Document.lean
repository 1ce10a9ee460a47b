import Mhtml.Tree.Build
import Mhtml.Tree.Walk

/-!
# Parsed documents

A document is the tree of its elements and text together with the closing tags
that found no partner, the side list of section F of the specification.
-/

namespace Mhtml

/-- A parsed document. -/
structure Document where
  /-- The top-level nodes. -/
  nodes : Forest
  /-- The closing tags that matched no open element, in source order. -/
  stray : List Token
deriving DecidableEq, Repr

namespace Document

/-- The document with these tags in a text of `size` bytes. -/
def ofTokens (size : Nat) (tokens : List Token) : Document :=
  let built := (tokens.foldl Builder.step {}).fill size
  ⟨built.finish, built.stray.reverse⟩

/-- All elements in document order. -/
def descendants (d : Document) : List Element :=
  (Walk.start d.nodes).toList

/-- The stray closing tags that lie inside `span`. -/
def strayWithin (d : Document) (span : Span) : List Token :=
  d.stray.filter fun token => decide (token.span.Within span)

end Document

/-- The first of some elements with a tag that covers `offset`. -/
def Element.covering? (elements : List Element) (offset : Nat) : Option Element :=
  elements.find? (·.covers offset)

/-- The element with a tag that covers `offset`. -/
def Document.elementAt? (d : Document) (offset : Nat) : Option Element :=
  Element.covering? d.descendants offset

/-- Reads a text as a document. -/
def parse (text : List Char) : Document :=
  Document.ofTokens (byteSize text) (tokenize text)

end Mhtml
