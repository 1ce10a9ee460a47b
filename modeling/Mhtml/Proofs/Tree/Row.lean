import Mathlib.Data.List.TakeWhile
import Mhtml.Proofs.Tree.Shape
import Mhtml.Proofs.Tree.Skeleton

/-!
# Trees from one row of nodes

A builder keeps its open elements in a stack, each with what came before it. All of
that can be laid out in one row: if the text ended now, every open element would be
abandoned, and what stands before and inside it would follow in its place. Nothing
but the open elements is unclosed in that row, so the stack can be read off it. A
closing tag then takes what stands after the latest unclosed element of its name and
puts it inside that one. `Row.step` does this to a row without text, and
`skeleton_ofTokens` says that the elements of a document come out of it.
-/

namespace Mhtml

/-- Whether a node is an element called `tag` that is not closed. -/
def Node.isOpen (tag : Tag) : Node → Bool
  | text _ => false
  | element e => e.tag == tag && e.ending == .unclosed

theorem Node.isOpen_element_iff {tag : Tag} {e : Element} :
    (element e).isOpen tag = true ↔ e.tag = tag ∧ e.ending = .unclosed := by
  simp [isOpen]

/-- The element that a tag opens, as long as nothing closes it. -/
def Token.element (t : Token) : Element :=
  ⟨⟨Tag.ofName t.name, t.span, if t.kind = .selfClosing then .selfClosing else .unclosed⟩, .nil⟩

theorem Token.openingToken_element {t : Token} (opens : t.kind ≠ .closing) :
    t.element.openingToken = t := by
  obtain ⟨kind, name, span⟩ := t
  cases kind with
  | closing => exact absurd rfl opens
  | opening => simp [element, ElementTags.openingToken, ElementTags.isSelfClosing]
  | selfClosing => simp [element, ElementTags.openingToken, ElementTags.isSelfClosing]

/-- What tags have left so far, the latest first. -/
structure Row where
  /-- The nodes on the top level. -/
  nodes : List Node := []
  /-- The closing tags that matched nothing. -/
  stray : List Token := []

namespace Row

/-- The latest unclosed element called `tag`, with what follows it put inside, and closed by `t`. -/
def close (r : Row) (tag : Tag) (t : Token) : Row :=
  match r.nodes.dropWhile (!·.isOpen tag) with
  | .element e :: before =>
    let inside := r.nodes.takeWhile (!·.isOpen tag)
    { r with nodes := .element ⟨⟨tag, e.opening, .closed t.span⟩, .ofReversed inside⟩ :: before }
  | _ => { r with stray := t :: r.stray }

/-- What a tag does to a row. -/
def step (r : Row) (t : Token) : Row :=
  if t.kind = .closing then r.close (Tag.ofName t.name) t
  else { r with nodes := .element t.element :: r.nodes }

/-- The document that a row stands for. -/
def document (r : Row) : Document :=
  ⟨.ofReversed r.nodes, r.stray.reverse⟩

variable {r : Row} {tag : Tag} {e : Element} {inside before : List Node}

/-- A closing tag finds the latest unclosed element of its name. -/
theorem close_of_split (nodes : r.nodes = inside ++ .element e :: before)
    (opened : (Node.element e).isOpen tag = true) (others : ∀ n ∈ inside, n.isOpen tag = false)
    (t : Token) :
    r.close tag t = { r with
      nodes := .element ⟨⟨tag, e.opening, .closed t.span⟩, .ofReversed inside⟩ :: before } := by
  have passed : ∀ n ∈ inside, (!n.isOpen tag) = true := by
    intro n found
    rw [others n found]
    rfl
  have rest : r.nodes.dropWhile (!·.isOpen tag) = .element e :: before := by
    rw [nodes, List.dropWhile_append_of_pos passed, List.dropWhile_cons_of_neg (by simp [opened])]
  have taken : r.nodes.takeWhile (!·.isOpen tag) = inside := by
    rw [nodes, List.takeWhile_append_of_pos passed, List.takeWhile_cons_of_neg (by simp [opened]),
      List.append_nil]
  rw [close, rest, taken]

/-- A closing tag strays if nothing of its name is unclosed. -/
theorem close_of_forall (none : ∀ n ∈ r.nodes, n.isOpen tag = false) (t : Token) :
    r.close tag t = { r with stray := t :: r.stray } := by
  have rest : r.nodes.dropWhile (!·.isOpen tag) = [] := by
    apply List.dropWhile_eq_nil_iff.2
    intro n found
    rw [none n found]
    rfl
  rw [close, rest]

/-- What a closing tag can do: nothing of its name is unclosed, or it closes the latest that is. -/
theorem close_cases (r : Row) (tag : Tag) (t : Token) :
    ((∀ n ∈ r.nodes, n.isOpen tag = false) ∧ r.close tag t = { r with stray := t :: r.stray }) ∨
    ∃ inside e before, r.nodes = inside ++ .element e :: before ∧
      (e.tag = tag ∧ e.ending = .unclosed) ∧ (∀ n ∈ inside, n.isOpen tag = false) ∧
      r.close tag t = { r with
        nodes := .element ⟨⟨tag, e.opening, .closed t.span⟩, .ofReversed inside⟩ :: before } := by
  cases found : r.nodes.find? (·.isOpen tag) with
  | none =>
    have none : ∀ n ∈ r.nodes, n.isOpen tag = false := by simpa using found
    exact Or.inl ⟨none, close_of_forall none t⟩
  | some node =>
    obtain ⟨opened, inside, before, nodes, others⟩ := List.find?_eq_some_iff_append.1 found
    have others : ∀ n ∈ inside, n.isOpen tag = false := by simpa using others
    cases node with
    | text span => cases opened
    | element e =>
      exact Or.inr ⟨inside, e, before, nodes, Node.isOpen_element_iff.1 opened, others,
        close_of_split nodes opened others t⟩

end Row

namespace Builder

/-- The row that a builder would leave behind now, without text. -/
def row (b : Builder) : Row :=
  ⟨(b.hoisted b.context.toList).filterMap (Node.skeleton? 0), b.stray⟩

variable {b : Builder}

theorem row_fill (b : Builder) (offset cursor : Nat) :
    ({ b.fill offset with cursor } : Builder).row = b.row := by
  show Row.mk (((b.fill offset).hoisted (b.fill offset).context.toList).filterMap _)
    (b.fill offset).stray = b.row
  rw [filterMap_hoisted, siblings_fill, context_fill, stray_fill, row, filterMap_hoisted]

/-- What is hoisted is not unclosed, unless it is one of the elements that are abandoned. -/
theorem Tidy.isOpen_eq_false (tidy : b.Tidy) {tag : Tag} {inner outer : List OpenElement}
    (context : b.context.toList = inner ++ outer) (others : ∀ i ∈ inner, i.tag ≠ tag) {n : Node}
    (found : n ∈ (b.hoisted inner).filterMap (Node.skeleton? 0)) : n.isOpen tag = false := by
  obtain ⟨node, there, kept⟩ := List.mem_filterMap.1 found
  cases node with
  | text span => cases kept
  | element e =>
    cases kept
    rw [Bool.eq_false_iff, ne_eq, Node.isOpen_element_iff]
    rintro ⟨named, unclosed⟩
    rcases mem_hoisted_cases context there with settled | ⟨i, among, same⟩
    · apply tidy.ended e settled
      cases ending : e.ending with
      | unclosed => rfl
      | selfClosing => simp [Element.skeleton, ElementTags.shift, Ending.shift, ending] at unclosed
      | closed span => simp [Element.skeleton, ElementTags.shift, Ending.shift, ending] at unclosed
    · cases same
      exact others i among named

/-- A closing tag does to the row what it does to the builder. -/
theorem Tidy.row_close (tidy : b.Tidy) (tag : Tag) (t : Token) :
    (b.close tag t).row = b.row.close tag t := by
  rcases b.close_cases tag t with
    ⟨missing, after⟩ | ⟨inner, opened, outer, context, named, others, after⟩
  · have none : ∀ n ∈ b.row.nodes, n.isOpen tag = false := by
      intro n found
      exact tidy.isOpen_eq_false (List.append_nil _).symm missing found
    rw [after, Row.close_of_forall none]
    rfl
  · -- The row falls apart where the stack does.
    have nodes : b.row.nodes = (b.hoisted inner).filterMap (Node.skeleton? 0) ++
        .element ⟨⟨opened.tag, opened.opening, .unclosed⟩, .nil⟩ ::
          (opened.before ++ outer.toList.flatMap OpenElement.abandoned).filterMap
            (Node.skeleton? 0) := by
      rw [row, hoisted_context b context, List.filterMap_append]
      rfl
    have none : ∀ n ∈ (b.hoisted inner).filterMap (Node.skeleton? 0), n.isOpen tag = false := by
      intro n found
      exact tidy.isOpen_eq_false context others found
    rw [Row.close_of_split nodes (Node.isOpen_element_iff.2 ⟨named, rfl⟩) none, after,
      ← Forest.skeleton_ofReversed]
    rfl

theorem Tidy.row_accept (tidy : b.Tidy) (t : Token) : (b.accept t).row = b.row.step t := by
  unfold Builder.accept Row.step Token.element
  cases t.kind with
  | selfClosing => rfl
  | opening => rfl
  | closing => exact tidy.row_close (Tag.ofName t.name) t

theorem Tidy.step (tidy : b.Tidy) (t : Token) : (b.step t).Tidy :=
  (tidy.fill t.span.start t.span.stop).accept t

/-- Text makes no difference to the row, and a tag does to it what it does to the builder. -/
theorem Tidy.row_step (tidy : b.Tidy) (t : Token) : (b.step t).row = b.row.step t := by
  rw [Builder.step, (tidy.fill t.span.start t.span.stop).row_accept, row_fill]

theorem Tidy.row_foldl_step (tidy : b.Tidy) (tokens : List Token) :
    (tokens.foldl Builder.step b).row = tokens.foldl Row.step b.row := by
  induction tokens generalizing b with
  | nil => rfl
  | cons t tokens ih => rw [List.foldl_cons, ih (tidy.step t), tidy.row_step, List.foldl_cons]

/-- The row of a builder has the elements of the document that the builder would give now. -/
theorem skeleton_document (b : Builder) : b.document.skeleton 0 = b.row.document := by
  have unmoved : ∀ ts : List Token, ts.map (Token.shift 0) = ts := List.map_id
  rw [Document.skeleton, unmoved, document, finish, Forest.skeleton_ofReversed]
  rfl

end Builder

/-- The elements of a document are what its tags make of a row. -/
theorem skeleton_ofTokens (size : Nat) (tokens : List Token) :
    (Document.ofTokens size tokens).skeleton 0 = (tokens.foldl Row.step {}).document := by
  show ((tokens.foldl Builder.step {}).fill size).document.skeleton 0 = _
  rw [Builder.skeleton_document, Builder.row_fill, Builder.tidy_empty.row_foldl_step]
  rfl

end Mhtml
