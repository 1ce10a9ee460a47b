import Mhtml.Grammar.Root
import Mhtml.Proofs.Tree.Enclosure

/-!
# Which elements are roots

The roots are found in one pass over the elements in document order: one that
starts before the end of the root before it is passed over. In a parsed document
that keeps just the paired `html` elements with no other one around them, which
is `roots_parse`.
-/

namespace Mhtml

/-- Whether an element is a pair called `tag` that no other such pair is around. -/
def Placed.isOuterPair (p : Placed) (tag : Tag) : Bool :=
  p.element.isPair tag && p.around.all (!·.isPair tag)

/-- The pairs called `tag` that no other such pair is around, in document order. -/
def Document.outerPairs (d : Document) (tag : Tag) : List Element :=
  ((d.nodes.placed []).filter (·.isOuterPair tag)).map Placed.element

/-- Elements that start early enough are all passed over. -/
theorem outermost_append_of_lt {covered : Nat} {es : List Element}
    (early : ∀ e ∈ es, e.opening.start < covered) (later : List Element) :
    outermost covered (es ++ later) = outermost covered later := by
  induction es with
  | nil => rfl
  | cons e es ih =>
    rw [List.cons_append, outermost, if_pos (early e List.mem_cons_self)]
    exact ih fun d found => early d (List.mem_cons_of_mem e found)

/-- Where the pass starts does not matter if all elements start later. -/
theorem outermost_congr {covered covered' : Nat} {es : List Element}
    (late : ∀ e ∈ es, covered ≤ e.opening.start) (late' : ∀ e ∈ es, covered' ≤ e.opening.start) :
    outermost covered es = outermost covered' es := by
  cases es with
  | nil => rfl
  | cons e es =>
    rw [outermost, outermost, if_neg (Nat.not_lt.2 (late e List.mem_cons_self)),
      if_neg (Nat.not_lt.2 (late' e List.mem_cons_self))]

/-- Nothing is kept just if all elements start too early. -/
theorem outermost_eq_nil_iff {covered : Nat} {es : List Element} :
    outermost covered es = [] ↔ ∀ e ∈ es, e.opening.start < covered := by
  induction es with
  | nil => simp [outermost]
  | cons e es ih =>
    rw [outermost, List.forall_mem_cons]
    by_cases early : e.opening.start < covered
    · rw [if_pos early, ih]
      simp [early]
    · rw [if_neg early]
      simp [early]

theorem Element.isPair_iff {e : Element} {tag : Tag} :
    e.isPair tag = true ↔ e.tag = tag ∧ e.isPaired = true := by
  rw [isPair, Bool.and_eq_true, beq_iff_eq]

theorem Element.isPair_of_closing {e : Element} {tag : Tag} {closing : Span} (named : e.tag = tag)
    (closed : e.closing? = some closing) : e.isPair tag = true :=
  isPair_iff.2 ⟨named, ElementTags.isPaired_iff.2 ⟨closing, closed⟩⟩

namespace Forest

/-- Below a pair called `tag` nothing is an outer one. -/
theorem filter_isOuterPair_of_mem {tag : Tag} {around : List Element} {e : Element}
    (among : e ∈ around) (pair : e.isPair tag = true) (f : Forest) :
    (f.placed around).filter (·.isOuterPair tag) = [] := by
  have covers : ∀ p : Placed, e ∈ p.around → p.isOuterPair tag = false := by
    intro p found
    rw [Placed.isOuterPair, Bool.and_eq_false_iff]
    refine Or.inr (List.all_eq_false.2 ⟨e, found, ?_⟩)
    simp [pair]
  induction f generalizing around with
  | nil => rfl
  | text span rest ih => exact ih among
  | element tags children rest ihc ihr =>
    rw [placed, List.filter_cons_of_neg (by simpa using covers ⟨_, around⟩ among), List.filter_append,
      ihc (List.mem_cons_of_mem _ among), ihr among]
    rfl

end Forest

namespace Element

variable {e : Element}

/-- What is below a pair starts before the pair ends. -/
theorem start_lt_outer_stop (spaced : Spaced e.pieces) (paired : e.isPaired = true) {d : Element}
    (below : d ∈ e.children.preorder) : d.opening.start < e.outer.stop := by
  obtain ⟨closing, closed⟩ := ElementTags.isPaired_iff.1 paired
  rw [pieces_of_closing closed] at spaced
  have there := Forest.openingToken_mem_pieces below
  have before : d.opening.stop ≤ closing.start := spaced.right.stop_le there List.mem_cons_self
  have first : d.opening.start < d.opening.stop := spaced.right.left.some _ there
  have last : closing.start < closing.stop := spaced.right.right.some _ List.mem_cons_self
  rw [ElementTags.outer_of_closing closed]
  show d.opening.start < closing.stop
  omega

/-- A pair is kept, and nothing below it is. -/
theorem outermost_pair (spaced : Spaced e.pieces) {tag : Tag} (pair : e.isPair tag = true)
    {covered : Nat} (opens : covered ≤ e.opening.start) {later : List Element}
    (late : ∀ d ∈ later, covered ≤ d.opening.start)
    (beyond : ∀ d ∈ later, e.outer.stop ≤ d.opening.start) :
    outermost covered (e :: (e.children.preorder.filter (·.isPair tag) ++ later)) =
      e :: outermost covered later := by
  have early : ∀ d ∈ e.children.preorder.filter (·.isPair tag), d.opening.start < e.outer.stop :=
    fun d found => start_lt_outer_stop spaced (isPair_iff.1 pair).2 (List.mem_filter.1 found).1
  rw [outermost, if_neg (Nat.not_lt.2 opens), outermost_append_of_lt early,
    outermost_congr beyond late]

end Element

namespace Forest

/-- The pass over a forest keeps the outer pairs, and goes on with what comes later. -/
theorem outermost_filter_preorder {tag : Tag} {around : List Element}
    (free : ∀ e ∈ around, e.isPair tag = false) {f : Forest} (spaced : Spaced f.pieces)
    (covered : Nat) (later : List Element) (late : ∀ e ∈ f.preorder ++ later, covered ≤ e.opening.start)
    (after : ∀ e ∈ later, ∀ p ∈ f.pieces, p.span.stop ≤ e.opening.start) :
    outermost covered (f.preorder.filter (·.isPair tag) ++ later) =
      ((f.placed around).filter (·.isOuterPair tag)).map Placed.element ++
        outermost covered later := by
  induction f generalizing around later with
  | nil => rfl
  | text span rest ih =>
    exact ih free (spaced.sublist (List.sublist_cons_self _ _)) later late
      fun e found p there => after e found p (List.mem_cons_of_mem _ there)
  | element tags children rest ihc ihr =>
    let e : Element := ⟨tags, children⟩
    let others := rest.preorder.filter (·.isPair tag)
    rw [pieces_element] at spaced after
    rw [preorder, List.cons_append, List.append_assoc] at late
    have opens : covered ≤ e.opening.start := late e List.mem_cons_self
    have lateRest : ∀ d ∈ rest.preorder ++ later, covered ≤ d.opening.start := fun d found =>
      late d (List.mem_cons_of_mem e (List.mem_append_right _ found))
    have onward := ihr free spaced.right later lateRest
      fun d found p there => after d found p (List.mem_append_right _ there)
    have kept : ∀ d ∈ others ++ later, d ∈ rest.preorder ++ later := by
      intro d found
      rcases List.mem_append.1 found with among | among
      · exact List.mem_append_left _ (List.mem_filter.1 among).1
      · exact List.mem_append_right _ among
    have lateOthers : ∀ d ∈ others ++ later, covered ≤ d.opening.start := fun d found =>
      lateRest d (kept d found)
    -- Whatever follows the element, in the forest or later, follows its pieces.
    have beyond : ∀ d ∈ others ++ later, ∀ p ∈ e.pieces, p.span.stop ≤ d.opening.start := by
      intro d found p there
      rcases List.mem_append.1 (kept d found) with among | among
      · exact spaced.stop_le there (openingToken_mem_pieces among)
      · exact after d among p (List.mem_append_left _ there)
    by_cases pair : e.isPair tag = true
    · have outer : Placed.isOuterPair ⟨e, around⟩ tag = true := by
        rw [Placed.isOuterPair, Bool.and_eq_true, List.all_eq_true]
        exact ⟨pair, fun d found => by simp [free d found]⟩
      have ends : ∀ d ∈ others ++ later, e.outer.stop ≤ d.opening.start := by
        intro d found
        obtain ⟨p, own, stop⟩ := e.exists_stop_eq
        rw [← stop]
        exact beyond d found p own
      rw [preorder, List.filter_cons_of_pos (p := (Element.isPair · tag)) pair, List.filter_append,
        List.cons_append, List.append_assoc,
        Element.outermost_pair spaced.left pair opens lateOthers ends, onward, placed, List.filter_cons_of_pos (p := (Placed.isOuterPair · tag)) outer,
        List.filter_append, filter_isOuterPair_of_mem List.mem_cons_self pair]
      rfl
    · have inner : ¬ Placed.isOuterPair ⟨e, around⟩ tag = true := by
        rw [Placed.isOuterPair, Bool.and_eq_true]
        exact fun both => pair both.1
      have freeBelow : ∀ d ∈ e :: around, d.isPair tag = false := by
        intro d found
        rcases List.mem_cons.1 found with rfl | among
        · simpa using pair
        · exact free d among
      have inside : children.pieces.Sublist e.pieces :=
        (List.sublist_append_left _ _).trans (List.sublist_cons_self _ _)
      have lateBelow : ∀ d ∈ children.preorder ++ (others ++ later), covered ≤ d.opening.start := by
        intro d found
        rcases List.mem_append.1 found with among | among
        · exact late d (List.mem_cons_of_mem e (List.mem_append_left _ among))
        · exact lateOthers d among
      have below := ihc freeBelow (spaced.left.sublist inside) (others ++ later) lateBelow
        fun d found p there => beyond d found p (inside.subset there)
      rw [preorder, List.filter_cons_of_neg (p := (Element.isPair · tag)) pair, List.filter_append,
        List.append_assoc, below, onward, placed,
        List.filter_cons_of_neg (p := (Placed.isOuterPair · tag)) inner, List.filter_append,
        List.map_append, List.append_assoc]

end Forest

/-- The root is the first of the roots, and the others are reported. -/
theorem matchRoot_eq (s : Source) (d : Document) :
    matchRoot s d =
      (d.roots.head?, d.roots.tail.map fun e => Violation.extraRoot.report (s.range e.opening)) := by
  rw [matchRoot]
  cases d.roots <;> rfl

/-- The roots of a parsed document are its outer pairs called `html`. -/
theorem roots_parse (text : List Char) : (parse text).roots = (parse text).outerPairs .html := by
  have free : ∀ e ∈ ([] : List Element), e.isPair .html = false := by simp
  have all := Forest.outermost_filter_preorder free (spaced_parse text) 0 [] (by simp) (by simp)
  rw [List.append_nil] at all
  rw [Document.roots, Document.descendants_eq, all, outermost, List.append_nil, Document.outerPairs]

/-- The roots are among the elements, in document order. -/
theorem roots_sublist (text : List Char) : (parse text).roots.Sublist (parse text).nodes.preorder := by
  rw [roots_parse, Document.outerPairs, ← Forest.map_element_placed []]
  exact List.filter_sublist.map _

/-- A root is a pair called `html` in the document. -/
theorem of_mem_roots {text : List Char} {root : Element} (among : root ∈ (parse text).roots) :
    root ∈ (parse text).nodes.preorder ∧ root.isPair .html = true := by
  refine ⟨(roots_sublist text).subset among, ?_⟩
  rw [roots_parse] at among
  obtain ⟨p, there, rfl⟩ := List.mem_map.1 among
  have outer := (List.mem_filter.1 there).2
  rw [Placed.isOuterPair, Bool.and_eq_true] at outer
  exact outer.1

end Mhtml
