import Mhtml.Proofs.Grammar.Nesting

/-!
# What the limit leaves out

The nesting visit judges elements down to a limit, and makes a record when the limit
keeps it from going on. The record is made at an element on the last level, before it
is known whether anything is below that element. So it is made, and once, whenever an
element goes without judgement; but it is made as well when all elements are judged
and one of them stands on the last level: `truncation_is_recorded`.
-/

namespace Mhtml

namespace Nesting

/-- A visit is kept from going deeper just if it meets an element at the limit or beyond. -/
theorem truncated_visit_iff (s : Source) (limit : Nat) (found : Findings) (around : List Element)
    (f : Forest) :
    (visit s limit (around.length + 1) found f).truncated = true ↔
      found.truncated = true ∨ ∃ p ∈ f.placed around, limit ≤ p.depth := by
  induction f generalizing found around with
  | nil => simp [visit, Forest.placed]
  | text span rest ih => exact ih found around
  | element tags children rest ihc ihr =>
    let p : Placed := ⟨⟨tags, children⟩, around⟩
    have inside : (below s limit p.depth found p.element).truncated = true ↔
        found.truncated = true ∨ limit ≤ p.depth ∨
          ∃ q ∈ children.placed (p.element :: around), limit ≤ q.depth := by
      unfold below
      split
      next reached => simp [reached]
      next free =>
        rw [or_iff_right free]
        exact ihc { found with names := [] } (p.element :: around)
    have parts : (∃ q ∈ (Forest.element tags children rest).placed around, limit ≤ q.depth) ↔
        limit ≤ p.depth ∨ (∃ q ∈ children.placed (p.element :: around), limit ≤ q.depth) ∨
          ∃ q ∈ rest.placed around, limit ≤ q.depth := by
      rw [Forest.placed]
      simp only [List.mem_cons, List.mem_append, or_and_right, exists_or, exists_eq_left]
      exact Iff.rfl
    -- Judging an element does not change what is known of the levels.
    have judged : (found.judge (below s limit p.depth found p.element) s p.element).truncated =
        (below s limit p.depth found p.element).truncated := rfl
    rw [visit_element, ihr, parts]
    change (found.judge (below s limit p.depth found p.element) s p.element).truncated = true ∨ _ ↔ _
    rw [judged, inside]
    simp only [or_assoc]

end Nesting

section

variable {text : List Char} {e : Element}

/-- An element below another goes without judgement just if something stands below the last level. -/
theorem exists_not_mem_judged_iff (found : e ∈ (parse text).nodes.preorder) (limit : Nat) :
    (∃ d ∈ e.descendants, d ∉ Nesting.judged limit 1 e.children) ↔
      ∃ p ∈ e.children.placed [], max 1 limit < p.depth := by
  have once := (Forest.preorder_sublist_of_mem found).nodup (nodup_preorder text)
  have rule : ∀ d, d ∈ Nesting.judged limit 1 e.children ↔
      ∃ p ∈ e.children.placed [], p.depth ≤ max 1 limit ∧ p.element = d :=
    fun d => @Nesting.mem_judged_iff limit [] e.children d
  rw [Element.descendants_eq]
  constructor
  · rintro ⟨d, below, left⟩
    rw [← Forest.map_element_placed []] at below
    obtain ⟨p, there, rfl⟩ := List.mem_map.1 below
    refine ⟨p, there, ?_⟩
    by_contra shallow
    exact left ((rule p.element).2 ⟨p, there, Nat.not_lt.1 shallow, rfl⟩)
  · rintro ⟨p, there, deep⟩
    refine ⟨p.element, Forest.mem_preorder_of_mem_placed there, ?_⟩
    intro judged
    obtain ⟨q, there', shallow, same⟩ := (rule p.element).1 judged
    -- An element has one place, so it does not stand on two levels.
    cases Forest.eq_of_placed once there' there same
    exact Nat.not_lt.2 shallow deep

/-- The record is made just if something stands on the last level or below it. -/
theorem truncated_visitNesting_iff (s : Source) (limit : Nat) (e : Element) :
    (visitNesting s limit e).truncated = true ↔
      ∃ p ∈ e.children.placed [], max 1 limit ≤ p.depth := by
  rw [visitNesting]
  refine (Nesting.truncated_visit_iff s limit {} [] e.children).trans ?_
  simp only [Bool.false_eq_true, false_or]
  refine exists_congr fun p => and_congr_right fun there => ?_
  have first : 1 ≤ p.depth := Forest.le_depth_of_mem_placed there
  omega

/-- The line for a record about the limit. -/
theorem line_truncated (limit : Nat) :
    Record.line (.truncated limit) = "WARN Nesting deeper than " ++ toString limit ++
      " levels; inner elements are not checked" := by
  have start : "WARN Nesting deeper than " = "WARN" ++ " " ++ "Nesting deeper than " := by
    decide +kernel
  have words : Record.message (.truncated limit) = "Nesting deeper than " ++ toString limit ++
      " levels; inner elements are not checked" := rfl
  rw [Record.line, words, start]
  simp only [String.append_assoc]
  rfl

/-- The nesting check makes one record or none. -/
theorem lines_checkNesting (s : Source) (limit : Nat) (e : Element) :
    (checkNesting s limit e).records.map Record.line =
      if (visitNesting s limit e).truncated = true then [Record.line (.truncated limit)] else [] := by
  rw [checkNesting, Nesting.Findings.records]
  split <;> rfl

/-- **What the record about the limit says.** The visit finds what there is to say about the elements
that it judges. When an element below `e` goes without judgement, the record is made, and once; when
all are judged, it is not made just if none of them stands on the last level. -/
theorem truncation_is_recorded (found : e ∈ (parse text).descendants) (limit : Nat) :
    let judged := Nesting.judged limit 1 e.children
    let lines := (checkNesting (.ofText text) limit e).records.map Record.line
    let warning := "WARN Nesting deeper than " ++ toString limit ++
      " levels; inner elements are not checked"
    (visitNesting (.ofText text) limit e).violations.reverse =
        judged.filterMap (Nesting.finding? (.ofText text)) ∧
      (lines = [] ∨ lines = [warning]) ∧
      ((∃ d ∈ e.descendants, d ∉ judged) → lines = [warning]) ∧
      ((∀ d ∈ e.descendants, d ∈ judged) →
        (lines = [] ↔ ∀ p ∈ e.children.placed [], p.depth ≠ max 1 limit)) := by
  rw [Document.descendants_eq] at found
  intro judged lines warning
  have reached := truncated_visitNesting_iff (.ofText text) limit e
  have left := exists_not_mem_judged_iff found limit
  have written : lines = if (visitNesting (.ofText text) limit e).truncated = true then [warning]
      else [] := by
    have record := lines_checkNesting (.ofText text) limit e
    rwa [line_truncated] at record
  refine ⟨?_, ?_, ?_, ?_⟩
  · rw [visitNesting, Nesting.violations_visit, List.append_nil, List.reverse_reverse]
  · rw [written]
    split
    · exact Or.inr rfl
    · exact Or.inl rfl
  · intro unjudged
    obtain ⟨p, there, deep⟩ := left.1 unjudged
    rw [written, if_pos (reached.2 ⟨p, there, Nat.le_of_lt deep⟩)]
  · intro all
    have shallow : ∀ p ∈ e.children.placed [], p.depth ≤ max 1 limit := by
      intro p there
      by_contra deep
      obtain ⟨d, below, unjudged⟩ := left.2 ⟨p, there, Nat.not_le.1 deep⟩
      exact unjudged (all d below)
    have silent : lines = [] ↔ ¬ (visitNesting (.ofText text) limit e).truncated = true := by
      rw [written]
      simp
    rw [silent, reached, not_exists]
    refine forall_congr' fun p => ?_
    rw [not_and]
    refine imp_congr_right fun there => ?_
    have := shallow p there
    omega

end

/-- A body with two levels of elements. -/
def steepMarkup : List Char :=
  "<body><div><span></span></div></body>".toList

theorem truncation_is_recorded_steepMarkup :
    ∃ e ∈ (parse steepMarkup).descendants,
      (∃ d ∈ e.descendants, d ∉ Nesting.judged 1 1 e.children) ∧
      (checkNesting (.ofText steepMarkup) 1 e).records.map Record.line =
        ["WARN Nesting deeper than 1 levels; inner elements are not checked"] ∧
      (∀ d ∈ e.descendants, d ∈ Nesting.judged 3 1 e.children) ∧
      (checkNesting (.ofText steepMarkup) 3 e).records.map Record.line = [] := by
  have levels : ∃ e ∈ (parse steepMarkup).descendants,
      (∃ d ∈ e.descendants, d ∉ Nesting.judged 1 1 e.children) ∧
      (∀ d ∈ e.descendants, d ∈ Nesting.judged 3 1 e.children) ∧
      ∀ p ∈ e.children.placed [], p.depth ≠ max 1 3 := by decide +kernel
  obtain ⟨e, found, left, all, none⟩ := levels
  obtain ⟨-, -, recorded, -⟩ := truncation_is_recorded found 1
  obtain ⟨-, -, -, silent⟩ := truncation_is_recorded found 3
  have words : "WARN Nesting deeper than " ++ toString 1 ++
      " levels; inner elements are not checked" =
      "WARN Nesting deeper than 1 levels; inner elements are not checked" := by decide +kernel
  exact ⟨e, found, left, words ▸ recorded left, all, (silent all).2 none⟩

/-- A body with one level of elements. -/
def shallowMarkup : List Char :=
  "<body><div></div></body>".toList

/-- The record can be made although nothing goes without judgement. -/
theorem not_forall_unjudged_of_record :
    ¬ ∀ (limit : Nat) (text : List Char), ∀ e ∈ (parse text).descendants,
      (checkNesting (.ofText text) limit e).records = [.truncated limit] →
        ∃ d ∈ e.descendants, d ∉ Nesting.judged limit 1 e.children := by
  intro all
  have recorded : ∃ e ∈ (parse shallowMarkup).descendants,
      (checkNesting (.ofText shallowMarkup) 1 e).records = [.truncated 1] ∧
      ∀ d ∈ e.descendants, d ∈ Nesting.judged 1 1 e.children := by decide +kernel
  obtain ⟨e, found, record, judged⟩ := recorded
  obtain ⟨d, below, left⟩ := all 1 shallowMarkup e found record
  exact left (judged d below)

end Mhtml
