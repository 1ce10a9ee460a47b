import Mhtml.Proofs.Grammar.ReportOrder

/-!
# Which root is chosen

The pass that finds the roots looks at where elements start, and nothing else: an
element that starts before the end of the root before it is passed over. What comes
out of it can be told by nesting alone. The first pair called `html` is the root,
wherever it stands, and every other one is reported that no such pair is around:
`root_is_first_pair`.
-/

namespace Mhtml

section

variable {text : List Char}

/-- The first root is the first pair called `html`. -/
theorem head?_roots (text : List Char) :
    (parse text).roots.head? = ((parse text).nodes.preorder.filter (·.isPair .html)).head? := by
  rw [Document.roots, Document.descendants_eq]
  cases (parse text).nodes.preorder.filter (·.isPair .html) with
  | nil => rfl
  | cons e es => rw [outermost, if_neg (Nat.not_lt_zero _), List.head?_cons, List.head?_cons]

/-- There is no root just if there is no pair called `html`. -/
theorem head?_roots_eq_none_iff :
    (parse text).roots.head? = none ↔
      ∀ e ∈ (parse text).nodes.preorder, e.isPair .html = false := by
  rw [head?_roots, List.head?_eq_none_iff, List.filter_eq_nil_iff]
  simp only [Bool.not_eq_true]

/-- No pair called `html` opens before the root. -/
theorem opening_root_le {root e : Element} (first : (parse text).roots.head? = some root)
    (found : e ∈ (parse text).nodes.preorder) (pair : e.isPair .html = true) :
    root.opening.start ≤ e.opening.start := by
  have among : e ∈ (parse text).nodes.preorder.filter (·.isPair .html) :=
    List.mem_filter.2 ⟨found, pair⟩
  have ordered := (pairwise_opening text).filter (·.isPair .html)
  rw [head?_roots] at first
  obtain ⟨others, pairs⟩ := List.head?_eq_some_iff.1 first
  rw [pairs] at among ordered
  rcases List.mem_cons.1 among with rfl | later
  · exact Nat.le_refl _
  · exact Nat.le_of_lt ((List.pairwise_cons.1 ordered).1 e later)

theorem Placed.isOuterPair_iff {p : Placed} {tag : Tag} :
    p.isOuterPair tag = true ↔ (p.element.tag = tag ∧ p.element.isPaired = true) ∧
      ∀ a ∈ p.around, ¬ (a.tag = tag ∧ a.isPaired = true) := by
  simp only [isOuterPair, Bool.and_eq_true, List.all_eq_true, Bool.not_eq_true', ← Bool.not_eq_true,
    Element.isPair_iff]

/-- What comes after the first of some elements are those that are not the first. -/
theorem tail_eq_filter {es : List Element} (once : es.Nodup) :
    es.tail = es.filter fun e => es.head? ≠ some e := by
  cases es with
  | nil => rfl
  | cons first rest =>
    have others : ∀ e ∈ rest, first ≠ e := by
      rintro e among rfl
      exact (List.nodup_cons.1 once).1 among
    rw [List.tail_cons, List.head?_cons, List.filter_cons_of_neg (by simp), eq_comm,
      List.filter_eq_self]
    simpa using others

/-- The roots but the first are the outer pairs other than the root. -/
theorem tail_roots (text : List Char) :
    (parse text).roots.tail =
      (((parse text).nodes.placed []).filter fun p =>
        p.isOuterPair .html ∧ (parse text).roots.head? ≠ some p.element).map Placed.element := by
  rw [tail_eq_filter ((roots_sublist text).nodup (nodup_preorder text))]
  generalize (parse text).roots.head? = first
  rw [roots_parse, Document.outerPairs, List.filter_map, List.filter_filter]
  congr 1
  apply List.filter_congr
  intro p _
  simp [Bool.and_comm]

/-- The opening tag of an element has a range of its own. -/
theorem eq_of_range_opening {d e : Element} (left : d ∈ (parse text).nodes.preorder)
    (right : e ∈ (parse text).nodes.preorder)
    (same : (Source.ofText text).range d.opening = (Source.ofText text).range e.opening) : d = e := by
  have opens := (exists_openingToken_iff.1 ⟨d, left, rfl⟩).1
  have opens' := (exists_openingToken_iff.1 ⟨e, right, rfl⟩).1
  have one := List.inj_on_of_nodup_map (nodup_range_tokenize text) opens opens' same
  exact Forest.eq_of_opening_eq (spaced_parse text) left right (congrArg Token.span one)

end

/-- **The root is the first pair.** There is none just if no `html` element has both tags; otherwise
it is the one that opens first, at whatever depth. Of the others those are reported, on their opening
tags and in document order, that no pair called `html` is around; those inside another pair are
not. -/
theorem root_is_first_pair (text : List Char) :
    let elements := (parse text).descendants
    let chosen := matchRoot (.ofText text) (parse text)
    let report := fun e : Element => (⟨.error, (Source.ofText text).range e.opening,
      "Document may contain only one html element"⟩ : Diagnostic)
    (chosen.1 = none ↔ ∀ e ∈ elements, ¬ (e.tag = .html ∧ e.isPaired = true)) ∧
    (∀ root, chosen.1 = some root →
      root ∈ elements ∧ root.tag = .html ∧ root.isPaired = true ∧
      ∀ e ∈ elements, e.tag = .html ∧ e.isPaired = true → root.opening.start ≤ e.opening.start) ∧
    chosen.2 = (((parse text).nodes.placed []).filter fun p =>
      (p.element.tag = .html ∧ p.element.isPaired = true) ∧
      (∀ a ∈ p.around, ¬ (a.tag = .html ∧ a.isPaired = true)) ∧
      chosen.1 ≠ some p.element).map (fun p => report p.element) ∧
    (chosen.2.Pairwise fun a b => a.range.start < b.range.start) ∧
    ∀ p ∈ (parse text).nodes.placed [], (∃ a ∈ p.around, a.tag = .html ∧ a.isPaired = true) →
      report p.element ∉ chosen.2 := by
  intro elements chosen report
  have first : chosen.1 = (parse text).roots.head? :=
    congrArg Prod.fst (matchRoot_eq (.ofText text) (parse text))
  have extra : chosen.2 = (parse text).roots.tail.map report :=
    congrArg Prod.snd (matchRoot_eq (.ofText text) (parse text))
  have listed : elements = (parse text).nodes.preorder := (parse text).descendants_eq
  rw [listed]
  refine ⟨?_, ?_, ?_, ?_, ?_⟩
  · rw [first, head?_roots_eq_none_iff]
    simp only [← Bool.not_eq_true, Element.isPair_iff]
  · intro root chose
    rw [first] at chose
    obtain ⟨found, pair⟩ := of_mem_roots (List.mem_of_mem_head? chose)
    obtain ⟨named, paired⟩ := Element.isPair_iff.1 pair
    refine ⟨found, named, paired, ?_⟩
    intro e there other
    exact opening_root_le chose there (Element.isPair_iff.2 other)
  · rw [extra, tail_roots, List.map_map, first]
    simp only [Placed.isOuterPair_iff, and_assoc]
    rfl
  · exact Check.pairwise_start .roots 0 text
  · rintro p there ⟨a, around, pair⟩ told
    rw [extra] at told
    obtain ⟨e, later, same⟩ := List.mem_map.1 told
    have among := List.mem_of_mem_tail later
    have one : e = p.element := eq_of_range_opening (of_mem_roots among).1
      (Forest.mem_preorder_of_mem_placed there) (congrArg Diagnostic.range same)
    -- What is reported is an outer pair, and it stands in one place only.
    rw [roots_parse] at among
    obtain ⟨q, outer, rfl⟩ := List.mem_map.1 among
    obtain ⟨there', free⟩ := List.mem_filter.1 outer
    cases Forest.eq_of_placed (nodup_preorder text) there' there one
    exact (Placed.isOuterPair_iff.1 free).2 a around pair

/-- Three pairs called `html`, one of them in another, and one `html` that is never closed. -/
def rivalMarkup : List Char :=
  "<html><p><html></html></p><div><html><html></html></html></div>".toList

theorem root_is_first_pair_rivalMarkup :
    ∃ root, (matchRoot (.ofText rivalMarkup) (parse rivalMarkup)).1 = some root ∧
      root.outer = ⟨9, 22⟩ ∧
      ∀ e ∈ (parse rivalMarkup).descendants, e.tag = .html ∧ e.isPaired = true →
        root.opening.start ≤ e.opening.start := by
  have there : (matchRoot (.ofText rivalMarkup) (parse rivalMarkup)).1.map (·.outer) =
      some ⟨9, 22⟩ := by decide +kernel
  obtain ⟨root, chose, outer⟩ := Option.map_eq_some_iff.1 there
  exact ⟨root, chose, outer, ((root_is_first_pair rivalMarkup).2.1 root chose).2.2.2⟩

end Mhtml
