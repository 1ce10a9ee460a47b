import Mathlib.Data.List.Nodup
import Mhtml.Proofs.Token.Occurrence
import Mhtml.Proofs.Tree.Enclosure
import Mhtml.Proofs.Tree.Shape

/-!
# How a parsed tree lies in its text

The nodes of a parsed tree lie in its text the way they lie in the tree: siblings
follow each other, children are between the tags of their parent, and whatever
stands between the tags of an element is below it. `Document.Laminar` says so,
together with what elements hold, and `parse_laminar` proves it of every text. The
order of the pieces carries over to the nodes, since a node starts with one of its
pieces and ends with one.
-/

namespace Mhtml

namespace Node

/-- The span of a node with all that it holds. -/
def outer : Node → Span
  | text span => span
  | element e => e.outer

/-- The piece that a node starts with. -/
def first : Node → Piece
  | text span => .text span
  | element e => .tag e.openingToken

theorem start_first (node : Node) : node.first.span.start = node.outer.start := by
  cases node <;> rfl

theorem first_mem_pieces (node : Node) : node.first ∈ node.pieces := by
  cases node <;> exact List.mem_cons_self

/-- A node ends with one of its pieces. -/
theorem exists_stop_eq (node : Node) : ∃ p ∈ node.pieces, p.span.stop = node.outer.stop := by
  cases node with
  | text span => exact ⟨.text span, List.mem_cons_self, rfl⟩
  | element e => exact e.exists_stop_eq

end Node

/-- The nodes of a run follow each other and do not overlap. -/
def Forest.Ordered (f : Forest) : Prop :=
  f.toNodes.Pairwise fun a b => a.outer.stop ≤ b.outer.start

/-- What a tree says about the text that it was read from. -/
structure Document.Laminar (d : Document) : Prop where
  /-- An element without a closing tag holds nothing. -/
  childless : ∀ e ∈ d.descendants, e.closing? = none → e.children = .nil
  /-- A self-closing element has no closing tag. -/
  single : ∀ e ∈ d.descendants, e.isSelfClosing = true → e.closing? = none
  /-- Document order is the order in which nodes start. -/
  increasing : d.nodes.allNodes.Pairwise fun a b => a.outer.start < b.outer.start
  /-- Nodes on the top level follow each other. -/
  topLevel : d.nodes.Ordered
  /-- The nodes inside an element follow each other. -/
  siblings : ∀ e ∈ d.descendants, e.children.Ordered
  /-- A child lies between the tags of its parent. -/
  enclosed : ∀ e ∈ d.descendants, ∀ child ∈ e.children.toNodes, e.Encloses child.outer
  /-- The elements below a pair are those that open between its tags. -/
  below : ∀ p ∈ d.descendants, p.isPaired = true → ∀ e ∈ d.descendants,
    (e ∈ p.descendants ↔ p.Encloses e.opening)
  /-- A pair has no unclosed child of its own name. -/
  fresh : ∀ p ∈ d.descendants, p.isPaired = true → ∀ e ∈ p.children.elements,
    e.isPaired = false → e.isSelfClosing = false → e.tag ≠ p.tag

namespace ElementTags

theorem isPaired_eq_false_iff {e : ElementTags} : e.isPaired = false ↔ e.closing? = none :=
  Option.isSome_eq_false_iff.trans Option.isNone_iff_eq_none

theorem closing?_of_isSelfClosing {e : ElementTags} (single : e.isSelfClosing = true) :
    e.closing? = none := by
  have ending : e.ending = .selfClosing := by simpa [isSelfClosing] using single
  rw [closing?, ending]

/-- An element that neither is self-closing nor has a closing tag is unclosed. -/
theorem ending_eq_unclosed {e : ElementTags} (unpaired : e.isPaired = false)
    (plain : e.isSelfClosing = false) : e.ending = .unclosed := by
  cases ending : e.ending with
  | selfClosing => simp [isSelfClosing, ending] at plain
  | unclosed => rfl
  | closed span => simp [isPaired, closing?, ending] at unpaired

end ElementTags

namespace Forest

variable {f : Forest} {e : Element}

/-- The first pieces of the nodes are in order among all pieces. -/
theorem map_first_sublist_pieces (f : Forest) : (f.allNodes.map Node.first).Sublist f.pieces := by
  induction f with
  | nil => exact List.Sublist.refl []
  | text span rest ih => exact ih.cons_cons _
  | element tags children rest ihc ihr =>
    rw [allNodes, List.map_cons, List.map_append, pieces, List.append_assoc]
    refine List.Sublist.cons_cons _ (ihc.append ?_)
    exact ihr.trans (List.sublist_append_right _ _)

theorem flatMap_pieces_toNodes (f : Forest) : f.toNodes.flatMap Node.pieces = f.pieces := by
  induction f with
  | nil => rfl
  | text span rest ih => rw [toNodes, List.flatMap_cons, ih, pieces]; rfl
  | element tags children rest _ ih => rw [toNodes, List.flatMap_cons, ih, pieces_element]; rfl

/-- If the pieces lie in order, each node starts before those that come later. -/
theorem pairwise_start_allNodes (spaced : Spaced f.pieces) :
    f.allNodes.Pairwise fun a b => a.outer.start < b.outer.start := by
  have firsts := spaced.sublist f.map_first_sublist_pieces
  refine (List.pairwise_map.1 firsts.apart).imp_of_mem ?_
  intro a b before _ apart
  have some := firsts.some a.first (List.mem_map_of_mem before)
  rw [← a.start_first, ← b.start_first]
  omega

theorem ordered_of_spaced (spaced : Spaced f.pieces) : f.Ordered := by
  have apart := spaced.apart
  rw [← flatMap_pieces_toNodes, List.pairwise_flatMap] at apart
  refine apart.2.imp ?_
  intro a b before
  obtain ⟨last, among, stop⟩ := a.exists_stop_eq
  have le := before last among b.first b.first_mem_pieces
  rwa [stop, b.start_first] at le

/-- What an element holds is in order if the forest around it is. -/
theorem spaced_children (spaced : Spaced f.pieces) (found : e ∈ f.preorder) :
    Spaced e.children.pieces := by
  refine (spaced_element spaced found).sublist ?_
  exact (List.sublist_append_left _ _).trans (List.sublist_cons_self _ _)

/-- A node lies between the tags of an element if all its pieces are below the element. -/
theorem encloses_outer_of_pieces (spaced : Spaced f.pieces) (found : e ∈ f.preorder) {closing : Span}
    (closed : e.closing? = some closing) {node : Node}
    (below : ∀ p ∈ node.pieces, p ∈ e.children.pieces) : e.Encloses node.outer := by
  obtain ⟨last, among, stop⟩ := node.exists_stop_eq
  have starts := encloses_of_mem_children spaced found closed (below _ node.first_mem_pieces)
  have stops := encloses_of_mem_children spaced found closed (below _ among)
  rw [ElementTags.encloses_iff closed] at starts stops ⊢
  exact ⟨node.start_first ▸ starts.1, stop ▸ stops.2⟩

theorem encloses_outer (spaced : Spaced f.pieces) (found : e ∈ f.preorder) {closing : Span}
    (closed : e.closing? = some closing) {child : Node} (inside : child ∈ e.children.toNodes) :
    e.Encloses child.outer := by
  refine encloses_outer_of_pieces spaced found closed ?_
  intro p own
  rw [← flatMap_pieces_toNodes]
  exact List.mem_flatMap.2 ⟨child, inside, own⟩

theorem element_mem_allNodes (found : e ∈ f.preorder) : .element e ∈ f.allNodes := by
  induction f with
  | nil => cases found
  | text span rest ih => exact List.mem_cons_of_mem _ (ih found)
  | element tags children rest ihc ihr =>
    rw [preorder, List.mem_cons, List.mem_append] at found
    rw [allNodes, List.mem_cons, List.mem_append]
    rcases found with rfl | inside | after
    · exact Or.inl rfl
    · exact Or.inr (Or.inl (ihc inside))
    · exact Or.inr (Or.inr (ihr after))

/-- Two elements with the same opening tag are one. -/
theorem eq_of_opening_eq (spaced : Spaced f.pieces) {d : Element} (left : d ∈ f.preorder)
    (right : e ∈ f.preorder) (same : d.opening = e.opening) : d = e := by
  have starts : (f.allNodes.map (·.outer.start)).Nodup :=
    List.pairwise_map.2 ((pairwise_start_allNodes spaced).imp Nat.ne_of_lt)
  have start : (Node.element d).outer.start = (Node.element e).outer.start := by
    show d.opening.start = e.opening.start
    rw [same]
  exact Node.element.inj (List.inj_on_of_nodup_map starts (element_mem_allNodes left)
    (element_mem_allNodes right) start)

/-- An element that is listed once stands in one place only. -/
theorem eq_of_placed (once : f.preorder.Nodup) {around : List Element} {p q : Placed}
    (left : p ∈ f.placed around) (right : q ∈ f.placed around) (same : p.element = q.element) :
    p = q := by
  rw [← map_element_placed around] at once
  exact List.inj_on_of_nodup_map once left right same

end Forest

/-- Elements in document order open one after the other. -/
theorem pairwise_opening (text : List Char) :
    (parse text).nodes.preorder.Pairwise fun d e => d.opening.start < e.opening.start := by
  have opens := (Token.inOrder_tokenize text).pairwise.sublist
    (List.filter_sublist (p := (·.kind ≠ .closing)))
  rw [← (parse_holds text).map_openingToken] at opens
  exact (List.pairwise_map.1 opens).imp And.left

theorem nodup_preorder (text : List Char) : (parse text).nodes.preorder.Nodup := by
  apply (pairwise_opening text).imp
  rintro d _ before rfl
  exact Nat.lt_irrefl _ before

/-- A tag that closes an element does not stray. -/
theorem not_mem_stray {text : List Char} {e : Element} {t : Token}
    (found : e ∈ (parse text).nodes.preorder) (closes : e.closingToken? = some t) :
    t ∉ (parse text).stray := by
  intro stray
  have tags : (tokenize text).Nodup := (Token.nodup_start_tokenize text).of_map _
  have once := (parse_holds text).perm_closingToken.nodup_iff.2 (tags.filter _)
  exact (List.nodup_append.1 once).2.2 t (List.mem_filterMap.2 ⟨e, found, closes⟩) t stray rfl

/-- An element is below a pair just if it opens between the tags of the pair. -/
theorem mem_descendants_iff {text : List Char} {p e : Element}
    (around : p ∈ (parse text).nodes.preorder) (paired : p.isPaired = true)
    (found : e ∈ (parse text).nodes.preorder) : e ∈ p.descendants ↔ p.Encloses e.opening := by
  have opens := encloses_tag_iff around paired e.kind_openingToken
  rw [Element.descendants_eq]
  constructor
  · intro below
    exact (opens.2 ⟨e, below, rfl⟩).2
  · intro within
    have tag := (exists_openingToken_iff.1 ⟨e, found, rfl⟩).1
    obtain ⟨d, below, same⟩ := opens.1 ⟨tag, within⟩
    have there := Forest.mem_preorder_of_mem_children around below
    have one := Forest.eq_of_opening_eq (spaced_parse text) there found (congrArg Token.span same)
    rwa [← one]

/-- Two pairs that are around the same element are one, or one of them is around the other. -/
theorem eq_or_mem_descendants {text : List Char} {p q e : Element}
    (left : p ∈ (parse text).nodes.preorder) (pairedLeft : p.isPaired = true)
    (right : q ∈ (parse text).nodes.preorder) (pairedRight : q.isPaired = true)
    (belowLeft : e ∈ p.descendants) (belowRight : e ∈ q.descendants) :
    p = q ∨ q ∈ p.descendants ∨ p ∈ q.descendants := by
  obtain ⟨closing, closed⟩ := ElementTags.isPaired_iff.1 pairedLeft
  obtain ⟨closing', closed'⟩ := ElementTags.isPaired_iff.1 pairedRight
  have found : e ∈ (parse text).nodes.preorder :=
    Forest.mem_preorder_of_mem_children left (p.descendants_eq ▸ belowLeft)
  have tag := (exists_openingToken_iff.1 ⟨e, found, rfl⟩).1
  have some : e.opening.start < e.opening.stop :=
    ((Token.inOrder_tokenize text).bounds _ tag).2
  rw [mem_descendants_iff left pairedLeft found, ElementTags.encloses_iff closed] at belowLeft
  rw [mem_descendants_iff right pairedRight found, ElementTags.encloses_iff closed'] at belowRight
  rw [mem_descendants_iff left pairedLeft right, mem_descendants_iff right pairedRight left,
    ElementTags.encloses_iff closed, ElementTags.encloses_iff closed']
  by_cases same : p.openingToken = q.openingToken
  · have opening : p.opening = q.opening := congrArg Token.span same
    exact Or.inl (Forest.eq_of_opening_eq (spaced_parse text) left right opening)
  · -- The one that opens later opens between the tags of the other.
    have opens := (exists_openingToken_iff.1 ⟨p, left, rfl⟩).1
    have opens' := (exists_openingToken_iff.1 ⟨q, right, rfl⟩).1
    rcases Token.apart_of_mem_tokenize opens opens' same with before | before
    · have order : p.opening.stop ≤ q.opening.start := before
      exact Or.inr (Or.inl (by omega))
    · have order : q.opening.stop ≤ p.opening.start := before
      exact Or.inr (Or.inr (by omega))

/-- An element below a pair lies between the tags of the pair. -/
theorem encloses_outer_of_mem_descendants {text : List Char} {p e : Element}
    (around : p ∈ (parse text).nodes.preorder) (paired : p.isPaired = true)
    (below : e ∈ p.descendants) : p.Encloses e.outer := by
  obtain ⟨closing, closed⟩ := ElementTags.isPaired_iff.1 paired
  rw [Element.descendants_eq] at below
  obtain ⟨before, after, parts⟩ := Forest.exists_pieces_of_mem_preorder below
  show p.Encloses (Node.element e).outer
  refine Forest.encloses_outer_of_pieces (spaced_parse text) around closed ?_
  intro q own
  rw [parts]
  exact List.mem_append_right before (List.mem_append_left after own)

/-- **A tree lies in its text as it is nested.** This holds of whatever text is read, well-formed or
not. -/
theorem parse_laminar (text : List Char) : (parse text).Laminar := by
  have spaced := spaced_parse text
  have all := (parse text).descendants_eq
  constructor
  case childless =>
    intro e found unpaired
    rw [all] at found
    exact (isRegular_parse found).childless (ElementTags.isPaired_eq_false_iff.2 unpaired)
  case single => exact fun e _ single => ElementTags.closing?_of_isSelfClosing single
  case increasing => exact Forest.pairwise_start_allNodes spaced
  case topLevel => exact Forest.ordered_of_spaced spaced
  case siblings =>
    intro e found
    rw [all] at found
    exact Forest.ordered_of_spaced (Forest.spaced_children spaced found)
  case enclosed =>
    intro e found child inside
    rw [all] at found
    cases closed : e.closing? with
    | some closing => exact Forest.encloses_outer spaced found closed inside
    | none =>
      -- Without a closing tag there is nothing inside.
      have empty := (isRegular_parse found).childless (ElementTags.isPaired_eq_false_iff.2 closed)
      rw [empty] at inside
      cases inside
  case below =>
    intro p around paired e found
    rw [all] at around found
    exact mem_descendants_iff around paired found
  case fresh =>
    intro p found _ e child unpaired plain
    rw [all] at found
    exact isFresh_parse found e child (ElementTags.ending_eq_unclosed unpaired plain)

end Mhtml
