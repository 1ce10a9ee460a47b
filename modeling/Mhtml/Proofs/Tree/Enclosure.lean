import Mhtml.Proofs.Tree.Tiling

/-!
# What stands inside an element

An element encloses what lies between its two tags. In a parsed document the
pieces lie in order and apart from each other, so an element encloses just the
pieces below it: what a tree holds below an element can be told from the tags of
the text, and the other way round.
-/

namespace Mhtml

/-- The span lies between the two tags of the element. -/
def ElementTags.Encloses (e : ElementTags) (span : Span) : Prop :=
  ∃ inner ∈ e.inner?, span.Within inner

/-- Pieces in order, apart from each other and none of them empty. -/
structure Spaced (ps : List Piece) : Prop where
  apart : ps.Pairwise fun p q => p.span.stop ≤ q.span.start
  some : ∀ p ∈ ps, p.span.start < p.span.stop

namespace Spaced

variable {ps qs : List Piece}

theorem sublist (spaced : Spaced qs) (part : ps.Sublist qs) : Spaced ps where
  apart := spaced.apart.sublist part
  some := fun p found => spaced.some p (part.subset found)

theorem left (spaced : Spaced (ps ++ qs)) : Spaced ps :=
  spaced.sublist (List.sublist_append_left ps qs)

theorem right (spaced : Spaced (ps ++ qs)) : Spaced qs :=
  spaced.sublist (List.sublist_append_right ps qs)

theorem stop_le (spaced : Spaced (ps ++ qs)) {p q : Piece} (first : p ∈ ps) (last : q ∈ qs) :
    p.span.stop ≤ q.span.start :=
  (List.pairwise_append.1 spaced.apart).2.2 p first q last

end Spaced

theorem Tiles.spaced {start stop : Nat} {ps : List Piece}
    (tiles : Tiles start stop (ps.map Piece.span)) : Spaced ps where
  apart := List.pairwise_map.1 tiles.pairwise
  some := fun p found => (tiles.bounds.2 p.span (List.mem_map_of_mem found)).2.1

/-- The pieces of a parsed tree lie in order. -/
theorem spaced_parse (text : List Char) : Spaced (parse text).nodes.pieces :=
  (Piece.tiles_cut (Token.inOrder_tokenize text)).spaced.sublist (parse_holds text).kept

namespace ElementTags

theorem isPaired_iff {e : ElementTags} :
    e.isPaired = true ↔ ∃ closing, e.closing? = some closing :=
  Option.isSome_iff_exists

theorem inner?_eq_some {e : ElementTags} {closing : Span} (closed : e.closing? = some closing) :
    e.inner? = some ⟨e.opening.stop, closing.start⟩ := by
  rw [inner?, closed, Option.map_some]

theorem outer_of_closing {e : ElementTags} {closing : Span} (closed : e.closing? = some closing) :
    e.outer = ⟨e.opening.start, closing.stop⟩ := by
  rw [outer, closed, Option.getD_some]

theorem closingToken?_eq_some {e : ElementTags} {closing : Span}
    (closed : e.closing? = some closing) :
    e.closingToken? = some ⟨.closing, e.tag.name, closing⟩ := by
  rw [closingToken?, closed, Option.map_some]

theorem encloses_iff {e : ElementTags} {closing : Span} (closed : e.closing? = some closing)
    (span : Span) : e.Encloses span ↔ e.opening.stop ≤ span.start ∧ span.stop ≤ closing.start := by
  rw [Encloses, inner?_eq_some closed]
  constructor
  · rintro ⟨inner, same, within⟩
    cases same
    exact within
  · intro within
    exact ⟨_, rfl, within⟩

end ElementTags

theorem Element.pieces_of_closing {e : Element} {closing : Span} (closed : e.closing? = some closing) :
    e.pieces = [.tag e.openingToken] ++
      (e.children.pieces ++ [.tag ⟨.closing, e.tag.name, closing⟩]) := by
  rw [Element.pieces, ElementTags.closingToken?_eq_some closed]
  rfl

/-- An element ends with one of its tags. -/
theorem Element.exists_stop_eq (e : Element) : ∃ p ∈ e.pieces, p.span.stop = e.outer.stop := by
  cases closed : e.closing? with
  | none =>
    refine ⟨.tag e.openingToken, List.mem_cons_self, ?_⟩
    rw [ElementTags.outer, closed]
    rfl
  | some closing =>
    refine ⟨.tag ⟨.closing, e.tag.name, closing⟩, ?_, ?_⟩
    · rw [pieces_of_closing closed]
      simp
    · rw [ElementTags.outer_of_closing closed]
      rfl

namespace Forest

variable {f : Forest} {e : Element} {closing : Span}

theorem openingToken_mem_pieces (found : e ∈ f.preorder) :
    .tag e.openingToken ∈ f.pieces :=
  (tag_mem_pieces_iff e.kind_openingToken).2 ⟨e, found, rfl⟩

/-- The pieces of an element lie in order if those of the forest around it do. -/
theorem spaced_element (spaced : Spaced f.pieces) (found : e ∈ f.preorder) : Spaced e.pieces := by
  obtain ⟨before, after, parts⟩ := exists_pieces_of_mem_preorder found
  rw [parts] at spaced
  exact spaced.right.left

/-- What is below an element lies between its tags. -/
theorem encloses_of_mem_children (spaced : Spaced f.pieces) (found : e ∈ f.preorder)
    (closed : e.closing? = some closing) {p : Piece} (below : p ∈ e.children.pieces) :
    e.Encloses p.span := by
  have own := spaced_element spaced found
  rw [Element.pieces_of_closing closed] at own
  rw [ElementTags.encloses_iff closed]
  exact ⟨own.stop_le List.mem_cons_self (List.mem_append_left _ below),
    own.right.stop_le below List.mem_cons_self⟩

/-- What lies between the tags of an element is below it. -/
theorem mem_children_of_encloses (spaced : Spaced f.pieces) (found : e ∈ f.preorder)
    (closed : e.closing? = some closing) {p : Piece} (there : p ∈ f.pieces)
    (within : e.Encloses p.span) : p ∈ e.children.pieces := by
  obtain ⟨before, after, parts⟩ := exists_pieces_of_mem_preorder found
  have some := spaced.some p there
  rw [parts] at spaced there
  rw [Element.pieces_of_closing closed] at spaced there
  rw [ElementTags.encloses_iff closed] at within
  have opens : Piece.tag e.openingToken ∈
      [Piece.tag e.openingToken] ++ (e.children.pieces ++ [.tag ⟨.closing, e.tag.name, closing⟩]) :=
    List.mem_cons_self
  have closes : Piece.tag ⟨.closing, e.tag.name, closing⟩ ∈
      [Piece.tag e.openingToken] ++ (e.children.pieces ++ [.tag ⟨.closing, e.tag.name, closing⟩]) := by
    simp
  have first : e.opening.start < e.opening.stop := spaced.right.left.some _ opens
  have last : closing.start < closing.stop := spaced.right.left.some _ closes
  simp only [List.mem_append, List.mem_singleton] at there
  -- Every other place is before the end of the opening tag or after the start of the closing one.
  rcases there with outside | (rfl | below | rfl) | outside
  · have : p.span.stop ≤ e.opening.start := spaced.stop_le outside (List.mem_append_left _ opens)
    omega
  · have : e.opening.stop ≤ e.opening.start := within.1
    omega
  · exact below
  · have : closing.stop ≤ closing.start := within.2
    omega
  · have : closing.stop ≤ p.span.start := spaced.right.stop_le closes outside
    omega

/-- The closing tag of an element comes after its opening tag. -/
theorem opening_le_closing (spaced : Spaced f.pieces) (found : e ∈ f.preorder)
    (closed : e.closing? = some closing) : e.opening.stop ≤ closing.start := by
  have own := spaced_element spaced found
  rw [Element.pieces_of_closing closed] at own
  exact own.stop_le List.mem_cons_self (List.mem_append_right _ List.mem_cons_self)

end Forest

section Parsed

variable {text : List Char} {e : Element}

/-- A tag of a text that does not close opens an element of its tree, and every element is opened by
one. -/
theorem exists_openingToken_iff {t : Token} :
    (∃ d ∈ (parse text).nodes.preorder, d.openingToken = t) ↔
      t ∈ tokenize text ∧ t.kind ≠ .closing := by
  have same := (parse_holds text).map_openingToken
  rw [← List.mem_map, same, List.mem_filter, decide_eq_true_eq]

/-- A closing tag of a text closes an element of its tree or strays, and those that do are its closing
tags. -/
theorem mem_tokenize_closing_iff {t : Token} (kind : t.kind = .closing) :
    t ∈ tokenize text ↔
      (∃ d ∈ (parse text).nodes.preorder, d.closingToken? = some t) ∨ t ∈ (parse text).stray := by
  have same := (parse_holds text).perm_closingToken.mem_iff (a := t)
  rw [List.mem_append, List.mem_filterMap, List.mem_filter, decide_eq_true_eq] at same
  rw [same]
  exact ⟨fun tag => ⟨tag, kind⟩, And.left⟩

/-- An element encloses a tag that does not close just if the tag opens an element below it. -/
theorem encloses_tag_iff (found : e ∈ (parse text).nodes.preorder) (paired : e.isPaired = true)
    {t : Token} (opens : t.kind ≠ .closing) :
    (t ∈ tokenize text ∧ e.Encloses t.span) ↔ ∃ d ∈ e.children.preorder, d.openingToken = t := by
  obtain ⟨closing, closed⟩ := ElementTags.isPaired_iff.1 paired
  have spaced := spaced_parse text
  constructor
  · rintro ⟨tag, within⟩
    have there : .tag t ∈ (parse text).nodes.pieces :=
      (Forest.tag_mem_pieces_iff opens).2 (exists_openingToken_iff.2 ⟨tag, opens⟩)
    exact (Forest.tag_mem_pieces_iff opens).1
      (Forest.mem_children_of_encloses spaced found closed there within)
  · rintro ⟨d, below, rfl⟩
    refine ⟨(exists_openingToken_iff.1 ⟨d, Forest.mem_preorder_of_mem_children found below, rfl⟩).1, ?_⟩
    exact Forest.encloses_of_mem_children spaced found closed
      ((Forest.tag_mem_pieces_iff opens).2 ⟨d, below, rfl⟩)

/-- Both tags of a pair are tags of the text. -/
theorem tags_mem_tokenize (found : e ∈ (parse text).nodes.preorder) {closing : Span}
    (closed : e.closing? = some closing) :
    e.openingToken ∈ tokenize text ∧ ⟨.closing, e.tag.name, closing⟩ ∈ tokenize text := by
  constructor
  · exact (exists_openingToken_iff.1 ⟨e, found, rfl⟩).1
  · rw [mem_tokenize_closing_iff rfl]
    exact Or.inl ⟨e, found, ElementTags.closingToken?_eq_some closed⟩

/-- Between the tags of an element stands a piece of the text. -/
theorem exists_innerText (found : e ∈ (parse text).nodes.preorder) (paired : e.isPaired = true) :
    ∃ inner piece, e.inner? = some inner ∧ TextAt text inner piece := by
  obtain ⟨closing, closed⟩ := ElementTags.isPaired_iff.1 paired
  obtain ⟨opens, closes⟩ := tags_mem_tokenize found closed
  have first := (Token.isEdge_of_mem_tokenize opens).2
  have last := (Token.isEdge_of_mem_tokenize closes).1
  obtain ⟨piece, there⟩ :=
    first.exists_textAt last (Forest.opening_le_closing (spaced_parse text) found closed)
  exact ⟨_, piece, ElementTags.inner?_eq_some closed, there⟩

end Parsed

end Mhtml
