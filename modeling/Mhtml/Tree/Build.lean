import Mhtml.Token
import Mhtml.Tree.Open

/-!
# Building a tree from tags

The builder stands at a place in an unfinished tree: it knows the nodes before
it in the innermost open element, and for each open element what came before
that one. A closing tag ends the innermost open element of its name. Elements
opened inside that one and not closed yet are abandoned: they keep their place
without children, and what stood inside them follows them. A closing tag that
no open element matches is stray and stays out of the tree. This is the tree
builder of section F of the specification, which calls what an abandoned element
held hoisted.
-/

namespace Mhtml

/-- The state of a tree under construction. -/
structure Builder where
  /-- The offset up to which the text has been used. -/
  cursor : Nat := 0
  /-- The nodes so far inside the innermost open element, the latest first. -/
  siblings : List Node := []
  /-- The open elements, the innermost first. -/
  context : OpenElements := ∅
  /-- The closing tags that matched nothing, the latest first. -/
  stray : List Token := []

namespace Builder

/-- Adds a node where the builder stands. -/
def push (b : Builder) (node : Node) : Builder :=
  { b with siblings := node :: b.siblings }

/-- Adds the text between the cursor and `offset`, if there is any. -/
def fill (b : Builder) (offset : Nat) : Builder :=
  if b.cursor < offset then b.push (.text ⟨b.cursor, offset⟩) else b

/-- The nodes so far at the place where `inner`, the innermost open elements, are abandoned. -/
def hoisted (b : Builder) (inner : List OpenElement) : List Node :=
  b.siblings ++ inner.flatMap OpenElement.abandoned

/-- Closes the innermost open element named `tag` by the closing tag `token`. -/
def close (b : Builder) (tag : Tag) (token : Token) : Builder :=
  match b.context.split? tag with
  | none => { b with stray := token :: b.stray }
  | some (inner, opened, outer) =>
    let e : Element :=
      ⟨⟨tag, opened.opening, .closed token.span⟩, Forest.ofReversed (b.hoisted inner)⟩
    { b with siblings := .element e :: opened.before, context := outer }

/-- Takes in a tag, the text before it being in the tree already. -/
def accept (b : Builder) (token : Token) : Builder :=
  let tag := Tag.ofName token.name
  match token.kind with
  | .selfClosing => b.push (.element ⟨⟨tag, token.span, .selfClosing⟩, .nil⟩)
  | .opening => { b with siblings := [], context := b.context.push ⟨tag, token.span, b.siblings⟩ }
  | .closing => b.close tag token

/-- Takes in a tag and the text before it. -/
def step (b : Builder) (token : Token) : Builder :=
  { b.fill token.span.start with cursor := token.span.stop }.accept token

/-- The finished tree: whatever is still open is abandoned. -/
def finish (b : Builder) : Forest :=
  Forest.ofReversed (b.hoisted b.context.toList)

end Builder

end Mhtml
