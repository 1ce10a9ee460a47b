import Mhtml.Grammar.Nesting
import Mhtml.Proofs.Grammar.Roots
import Mhtml.Proofs.Tree.Laminar

/-!
# What the nesting visit finds

The visit goes through a section once and carries the names it has met. What it
finds is what the rules say about each element by itself: `Nesting.judged` lists the
elements that it judges, `violations_visit` says what it finds about them, and
`perm_violations_visit` compares it with the elements taken one by one, down to the
limit, each judged by all that is below it. For a parsed text the judgement is told from the text and
its tags alone, in `violation?_eq_none_iff`, and what is reported comes in document
order, in `diagnostics_checkNesting`.
-/

namespace Mhtml

namespace Nesting

/-! ## Names -/

theorem mem_note {names : List String} {name n : String} :
    n ∈ note names name ↔ n ∈ names ∨ (n = name ∧ n ∈ Rule.excludedNames) := by
  unfold note
  split
  next new =>
    simp only [Bool.and_eq_true, List.contains_iff_mem] at new
    rw [List.mem_cons]
    constructor
    · rintro (rfl | old)
      · exact Or.inr ⟨rfl, new.1⟩
      · exact Or.inl old
    · rintro (old | ⟨rfl, -⟩)
      · exact Or.inr old
      · exact Or.inl rfl
  next known =>
    refine ⟨Or.inl, ?_⟩
    rintro (old | ⟨rfl, excluded⟩)
    · exact old
    · simpa [excluded] using known

theorem mem_foldl_note {names more : List String} {n : String} :
    n ∈ more.foldl note names ↔ n ∈ names ∨ (n ∈ more ∧ n ∈ Rule.excludedNames) := by
  induction more generalizing names with
  | nil => simp
  | cons name more ih =>
    rw [List.foldl_cons, ih, mem_note, List.mem_cons]
    constructor
    · rintro ((old | ⟨same, excluded⟩) | ⟨later, excluded⟩)
      · exact Or.inl old
      · exact Or.inr ⟨Or.inl same, excluded⟩
      · exact Or.inr ⟨Or.inr later, excluded⟩
    · rintro (old | ⟨same | later, excluded⟩)
      · exact Or.inl (Or.inl old)
      · exact Or.inl (Or.inr ⟨same, excluded⟩)
      · exact Or.inr ⟨later, excluded⟩

/-- The names of the elements of a forest. -/
def namesIn (f : Forest) : List String :=
  f.preorder.map (·.tag.name)

theorem mem_namesBelow {e : Element} {n : String} :
    n ∈ namesBelow e ↔ n ∈ namesIn e.children ∧ n ∈ Rule.excludedNames := by
  have folded : namesBelow e = (namesIn e.children).foldl note [] := by
    rw [namesBelow, Element.descendants_eq, namesIn, List.foldl_map]
  rw [folded, mem_foldl_note]
  simp

/-- What the visit finds below an element. -/
def below (s : Source) (limit level : Nat) (found : Findings) (e : Element) : Findings :=
  if limit ≤ level then { found with names := namesBelow e, truncated := true }
  else visit s limit (level + 1) { found with names := [] } e.children

theorem visit_element (s : Source) (limit level : Nat) (found : Findings) (tags : ElementTags)
    (children rest : Forest) :
    visit s limit level found (.element tags children rest) =
      visit s limit level (found.judge (below s limit level found ⟨tags, children⟩) s ⟨tags, children⟩)
        rest := rfl

/-- A visit has met the excluded names of the forest, besides those met before. -/
theorem mem_names_visit {s : Source} {limit level : Nat} {found : Findings} {f : Forest} {n : String} :
    n ∈ (visit s limit level found f).names ↔
      n ∈ found.names ∨ (n ∈ namesIn f ∧ n ∈ Rule.excludedNames) := by
  induction f generalizing level found with
  | nil => simp [visit, namesIn, Forest.preorder]
  | text span rest ih => exact ih
  | element tags children rest ihc ihr =>
    have inside : n ∈ (below s limit level found ⟨tags, children⟩).names ↔
        n ∈ namesIn children ∧ n ∈ Rule.excludedNames := by
      unfold below
      split
      next => exact mem_namesBelow
      next => simpa using @ihc (level + 1) { found with names := [] }
    have parts : n ∈ namesIn (.element tags children rest) ↔
        n = tags.tag.name ∨ n ∈ namesIn children ∨ n ∈ namesIn rest := by
      simp only [namesIn, Forest.preorder, List.map_cons, List.map_append, List.mem_cons,
        List.mem_append]
    rw [visit_element, ihr, Findings.judge, mem_note, mem_foldl_note, inside, parts]
    grind

theorem mem_names_below {s : Source} {limit level : Nat} {found : Findings} {e : Element} {n : String} :
    n ∈ (below s limit level found e).names ↔ n ∈ namesBelow e := by
  unfold below
  split
  next => exact Iff.rfl
  next =>
    rw [mem_names_visit, mem_namesBelow]
    simp

/-! ## Violations -/

/-- What is said about an element depends on which names are below it, not on their order. -/
theorem violation?_congr (s : Source) (e : Element) {names names' : List String}
    (same : ∀ n, n ∈ names ↔ n ∈ names') : violation? s e names = violation? s e names' := by
  have contains : names.contains = names'.contains := by
    funext n
    rw [Bool.eq_iff_iff, List.contains_iff_mem, List.contains_iff_mem]
    exact same n
  rw [violation?, violation?, contains]

/-- An element that breaks a rule of nesting has both tags, and the rule is its own and not one of
permitted names. -/
theorem of_violation?_eq_some {s : Source} {e : Element} {below : List String} {v : Violation}
    (broken : violation? s e below = some v) :
    ∃ rule, Rule.for? e.tag = some rule ∧ v = .contents rule ∧ e.isPaired = true ∧
      ∀ names, rule.containment ≠ .only names := by
  unfold violation? at broken
  split at broken
  next => cases broken
  next rule known =>
    refine ⟨rule, known, ?_⟩
    cases kind : rule.containment with
    | only names => simp [kind] at broken
    | textOnly =>
      rw [kind] at broken
      obtain ⟨holds, same⟩ := Option.ite_none_right_eq_some.1 broken
      obtain ⟨some, -⟩ := (Option.any_eq_true_iff_get _ _).1 holds
      cases same
      refine ⟨rfl, ?_, by simp⟩
      rwa [ElementTags.inner?, Option.isSome_map] at some
    | excludes names =>
      rw [kind] at broken
      obtain ⟨holds, same⟩ := Option.ite_none_right_eq_some.1 broken
      cases same
      exact ⟨rfl, (Bool.and_eq_true_iff.1 holds).1, by simp⟩

/-- What the rules say about an element by itself, if it is not too deep. -/
def breach? (s : Source) (bound : Nat) (p : Placed) : Option (Span × Violation) :=
  if p.depth ≤ bound then
    (violation? s p.element (namesBelow p.element)).map fun v => (p.element.outer, v)
  else none

theorem breach?_eq_some_iff {s : Source} {bound : Nat} {p : Placed} {a : Span × Violation} :
    breach? s bound p = some a ↔ p.depth ≤ bound ∧
      ∃ v, violation? s p.element (namesBelow p.element) = some v ∧ (p.element.outer, v) = a := by
  rw [breach?, Option.ite_none_right_eq_some, Option.map_eq_some_iff]

/-- What there is to say about an element by itself. -/
def finding? (s : Source) (e : Element) : Option (Span × Violation) :=
  (violation? s e (namesBelow e)).map fun v => (e.outer, v)

theorem violations_judge_below (found : Findings) (s : Source) (limit level : Nat) (e : Element) :
    (found.judge (below s limit level found e) s e).violations =
      (finding? s e).toList ++ (below s limit level found e).violations := by
  have names : violation? s e (below s limit level found e).names =
      violation? s e (namesBelow e) := violation?_congr s e fun n => mem_names_below
  rw [Findings.judge, finding?, names]
  cases violation? s e (namesBelow e) <;> rfl

/-- The elements that a visit at `level` judges, in the order in which it does. -/
def judged (limit level : Nat) : Forest → List Element
  | .nil => []
  | .text _ rest => judged limit level rest
  | .element tags children rest =>
    (if limit ≤ level then [] else judged limit (level + 1) children) ++
      ⟨tags, children⟩ :: judged limit level rest

/-- A visit finds what there is to say about the elements that it judges, one after the other. -/
theorem violations_visit (s : Source) (limit level : Nat) (found : Findings) (f : Forest) :
    (visit s limit level found f).violations =
      ((judged limit level f).filterMap (finding? s)).reverse ++ found.violations := by
  induction f generalizing level found with
  | nil => rfl
  | text span rest ih => exact ih level found
  | element tags children rest ihc ihr =>
    have inside : (below s limit level found ⟨tags, children⟩).violations =
        ((if limit ≤ level then [] else judged limit (level + 1) children).filterMap
          (finding? s)).reverse ++ found.violations := by
      unfold below
      split
      · rfl
      · exact ihc (level + 1) { found with names := [] }
    rw [visit_element, ihr, violations_judge_below, inside, judged, List.filterMap_append,
      List.reverse_append, List.filterMap_cons]
    cases finding? s ⟨tags, children⟩ <;> simp

/-- A visit judges what stands no deeper than the limit, each element once. The nodes that it starts
with are judged whatever the limit. -/
theorem perm_judged (limit : Nat) (around : List Element) (f : Forest) :
    (judged limit (around.length + 1) f).Perm
      (((f.placed around).filter (·.depth ≤ max (around.length + 1) limit)).map
        Placed.element) := by
  induction f generalizing around with
  | nil => exact List.Perm.refl _
  | text span rest ih => exact ih around
  | element tags children rest ihc ihr =>
    let p : Placed := ⟨⟨tags, children⟩, around⟩
    let bound := max (around.length + 1) limit
    have inside : (if limit ≤ around.length + 1 then []
        else judged limit (around.length + 1 + 1) children).Perm
        (((children.placed (p.element :: around)).filter (·.depth ≤ bound)).map
          Placed.element) := by
      split
      next reached =>
        have none : (children.placed (p.element :: around)).filter (·.depth ≤ bound) = [] := by
          rw [List.filter_eq_nil_iff]
          intro q found shallow
          have deep := Forest.le_depth_of_mem_placed found
          rw [List.length_cons] at deep
          rw [decide_eq_true_eq] at shallow
          omega
        rw [none, List.map_nil]
      next free =>
        have same : max ((p.element :: around).length + 1) limit = bound := by
          rw [List.length_cons]
          omega
        have visited := ihc (p.element :: around)
        rwa [same] at visited
    have own : p.depth ≤ bound := Nat.le_max_left _ _
    have whole : ((Forest.element tags children rest).placed around).filter (·.depth ≤ bound) =
        p :: ((children.placed (p.element :: around)).filter (·.depth ≤ bound) ++
          (rest.placed around).filter (·.depth ≤ bound)) := by
      rw [Forest.placed, List.filter_cons, if_pos (decide_eq_true own), List.filter_append]
    rw [judged, whole, List.map_cons, List.map_append]
    -- The element is judged after what is below it.
    exact (inside.append ((ihr around).cons _)).trans List.perm_middle

theorem mem_judged_iff {limit : Nat} {around : List Element} {f : Forest} {e : Element} :
    e ∈ judged limit (around.length + 1) f ↔
      ∃ p ∈ f.placed around, p.depth ≤ max (around.length + 1) limit ∧ p.element = e := by
  rw [(perm_judged limit around f).mem_iff, List.mem_map]
  simp only [List.mem_filter, decide_eq_true_eq, and_assoc]

/-- A visit finds the breaches of the forest down to the limit, each once, besides what was found
before. -/
theorem perm_violations_visit (s : Source) (limit : Nat) (found : Findings) (around : List Element)
    (f : Forest) :
    (visit s limit (around.length + 1) found f).violations.Perm
      ((f.placed around).filterMap (breach? s (max (around.length + 1) limit)) ++
        found.violations) := by
  have breaches : (f.placed around).filterMap (breach? s (max (around.length + 1) limit)) =
      (((f.placed around).filter (·.depth ≤ max (around.length + 1) limit)).map
        Placed.element).filterMap (finding? s) := by
    rw [List.filterMap_map, List.filterMap_filter]
    simp only [decide_eq_true_eq]
    rfl
  rw [violations_visit, breaches]
  refine List.Perm.append_right _ ((List.reverse_perm _).trans ?_)
  exact (perm_judged limit around f).filterMap _

end Nesting

/-! ## Rules -/

/-- Apart from `title` and `span` no element has a rule that the visit judges by. -/
theorem Rule.containment_of_ne {tag : Tag} {rule : Rule} (regular : Tag.ofName tag.name = tag)
    (found : Rule.for? tag = some rule) (noTitle : tag ≠ .title) (noSpan : tag ≠ .span) :
    ∃ names, rule.containment = .only names := by
  have parent : rule.parent = tag.name := by simpa using List.find?_some found
  have other : rule.parent ≠ "title" ∧ rule.parent ≠ "span" := by
    rw [parent]
    refine ⟨fun same => noTitle ?_, fun same => noSpan ?_⟩
    · rw [← regular, same]
      rfl
    · rw [← regular, same]
      rfl
  have known : rule ∈ Rule.all := List.mem_of_find?_eq_some found
  simp only [Rule.all, List.mem_cons, List.not_mem_nil, or_false] at known
  rcases known with rfl | rfl | rfl | rfl | rfl
  · exact ⟨_, rfl⟩
  · exact ⟨_, rfl⟩
  · exact absurd rfl other.1
  · exact absurd rfl other.2
  · exact ⟨_, rfl⟩

/-- A paired `title` has no `<` between its tags, and a paired `span` no tag that opens a `div`. -/
structure Element.NestsWell (text : List Char) (e : Element) : Prop where
  title : e.isPair .title = true → ∃ inner ∈ e.inner?, ∃ piece, TextAt text inner piece ∧ '<' ∉ piece
  span : e.isPair .span = true → ∀ t ∈ tokenize text, t.kind ≠ .closing → t.name = "div" →
    ¬ e.Encloses t.span

namespace Nesting

variable {text : List Char} {e : Element}

theorem violation?_title (found : e ∈ (parse text).nodes.preorder) (title : e.tag = .title)
    (below : List String) :
    violation? (.ofText text) e below = none ↔ (e.isPair .title = true →
      ∃ inner ∈ e.inner?, ∃ piece, TextAt text inner piece ∧ '<' ∉ piece) := by
  have rule : violation? (.ofText text) e below = none ↔
      e.inner?.any ((Source.ofText text).holds '<') = false := by
    rw [violation?, title]
    simp [Rule.for?, Rule.all, Tag.name]
  rw [rule, Element.isPair_iff]
  cases paired : e.isPaired with
  | false =>
    have none : e.inner? = none := by
      rw [ElementTags.inner?, Option.map_eq_none_iff]
      simpa [ElementTags.isPaired] using paired
    simp [none]
  | true =>
    obtain ⟨inner, piece, there, slice⟩ := exists_innerText found paired
    have holds : (Source.ofText text).holds '<' inner = piece.contains '<' := by
      rw [Source.holds_eq, Source.slice?_of_textAt (s := .ofText text) slice]
      rfl
    rw [there, Option.any_some, holds]
    constructor
    · intro plain _
      exact ⟨inner, rfl, piece, slice, by simpa using plain⟩
    · intro plain
      obtain ⟨_, same, piece', slice', plain'⟩ := plain ⟨title, rfl⟩
      cases same
      have unique : some piece = some piece' :=
        (Source.slice?_of_textAt (s := .ofText text) slice).symm.trans
          (Source.slice?_of_textAt (s := .ofText text) slice')
      cases unique
      simpa using plain'

theorem violation?_span (found : e ∈ (parse text).nodes.preorder) (span : e.tag = .span) :
    violation? (.ofText text) e (namesBelow e) = none ↔ (e.isPair .span = true →
      ∀ t ∈ tokenize text, t.kind ≠ .closing → t.name = "div" → ¬ e.Encloses t.span) := by
  have rule : violation? (.ofText text) e (namesBelow e) = none ↔
      (e.isPaired = true → "div" ∉ namesBelow e) := by
    rw [violation?, span]
    simp [Rule.for?, Rule.all, Tag.name]
  have excluded : "div" ∈ Rule.excludedNames := by decide
  rw [rule, Element.isPair_iff]
  constructor
  · rintro none ⟨-, paired⟩ t tag opens div within
    obtain ⟨d, below, rfl⟩ := (encloses_tag_iff found paired opens).1 ⟨tag, within⟩
    exact none paired (mem_namesBelow.2 ⟨List.mem_map.2 ⟨d, below, div⟩, excluded⟩)
  · intro free paired there
    obtain ⟨d, below, div⟩ := List.mem_map.1 (mem_namesBelow.1 there).1
    obtain ⟨tag, within⟩ := (encloses_tag_iff found paired d.kind_openingToken).2 ⟨d, below, rfl⟩
    exact free ⟨span, paired⟩ _ tag d.kind_openingToken div within

/-- An element breaks no rule of nesting just if it nests well by the text. -/
theorem violation?_eq_none_iff (found : e ∈ (parse text).nodes.preorder) :
    violation? (.ofText text) e (namesBelow e) = none ↔ e.NestsWell text := by
  by_cases title : e.tag = .title
  · rw [violation?_title found title]
    refine ⟨fun plain => ⟨plain, fun pair => ?_⟩, Element.NestsWell.title⟩
    rw [Element.isPair_iff, title] at pair
    cases pair.1
  · by_cases span : e.tag = .span
    · rw [violation?_span found span]
      refine ⟨fun free => ⟨fun pair => ?_, free⟩, Element.NestsWell.span⟩
      exact absurd (Element.isPair_iff.1 pair).1 title
    · have none : violation? (.ofText text) e (namesBelow e) = none := by
        unfold violation?
        split
        next => rfl
        next rule known =>
          obtain ⟨names, only⟩ := Rule.containment_of_ne (isRegular_parse found).named known title span
          rw [only]
          rfl
      refine ⟨fun _ => ⟨fun pair => ?_, fun pair => ?_⟩, fun _ => none⟩
      · exact absurd (Element.isPair_iff.1 pair).1 title
      · exact absurd (Element.isPair_iff.1 pair).1 span

end Nesting

section

variable {text : List Char} {e : Element}

/-- Breaches start one after the other. -/
theorem pairwise_breaches (found : e ∈ (parse text).nodes.preorder) (s : Source) (bound : Nat) :
    ((e.children.placed []).filterMap (Nesting.breach? s bound)).Pairwise
      fun a b => a.1.start < b.1.start := by
  have below := (pairwise_opening text).sublist (Forest.preorder_sublist_of_mem found)
  rw [← Forest.map_element_placed [], List.pairwise_map] at below
  refine List.pairwise_filterMap.2 (below.imp ?_)
  intro p q before a breachP b breachQ
  obtain ⟨-, v, -, rfl⟩ := Nesting.breach?_eq_some_iff.1 breachP
  obtain ⟨-, w, -, rfl⟩ := Nesting.breach?_eq_some_iff.1 breachQ
  exact before

/-- The nesting check reports the breaches of the elements below a section, in document order. -/
theorem diagnostics_checkNesting (found : e ∈ (parse text).nodes.preorder) (s : Source)
    (limit : Nat) :
    (checkNesting s limit e).diagnostics =
      ((e.children.placed []).filterMap (Nesting.breach? s (max 1 limit))).map
        fun breach => breach.2.report (s.range breach.1) := by
  have perm := Nesting.perm_violations_visit s limit {} [] e.children
  rw [List.append_nil, List.length_nil] at perm
  have sorted := mergeSort_eq_of_perm (fun v => v.1.start) ((List.reverse_perm _).trans perm)
    (pairwise_breaches found s (max 1 limit))
  rw [checkNesting, Nesting.Findings.diagnostics, visitNesting]
  dsimp only
  rw [sorted]

/-- A section passes just if every element below it nests well, down to the limit. -/
theorem checkNesting_eq_nil_iff (found : e ∈ (parse text).nodes.preorder) (limit : Nat) :
    (checkNesting (.ofText text) limit e).diagnostics = [] ↔
      ∀ p ∈ e.children.placed [], p.depth ≤ max 1 limit → p.element.NestsWell text := by
  rw [diagnostics_checkNesting found, List.map_eq_nil_iff, List.filterMap_eq_nil_iff]
  simp only [Nesting.breach?, ite_eq_right_iff, Option.map_eq_none_iff]
  refine forall₂_congr fun p below => ?_
  have inside := Forest.mem_preorder_of_mem_children found (Forest.mem_preorder_of_mem_placed below)
  rw [Nesting.violation?_eq_none_iff inside]

end

end Mhtml
