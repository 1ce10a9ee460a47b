import Mhtml.Proofs.Grammar.Locations

/-!
# The order of a report

A report is nine groups, one for each check, and in each group the entries come in
the order of the text. Groups are in document order because tags and elements are,
and positions grow with offsets. The places that are not those of a tag or of an
element, at the ends of the text and for a missing section, lie within its lines,
too. `diagnostics_in_order` is the whole of it.
-/

namespace Mhtml

/-- A word is found at an edge of the text. -/
theorem isEdge_of_findWordFrom? {word before cs : List Char} {o : Nat}
    (found : findWordFrom? word (byteSize before) cs = some o) : IsEdge (before ++ cs) o := by
  induction cs generalizing before with
  | nil =>
    rw [findWordFrom?] at found
    obtain ⟨-, same⟩ := Option.ite_none_right_eq_some.1 found
    cases same
    exact ⟨before, [], rfl, rfl⟩
  | cons c cs ih =>
    rw [findWordFrom?] at found
    split at found
    · cases found
      exact ⟨before, c :: cs, rfl, rfl⟩
    · -- The search goes on after `c`, which is then part of what stands before.
      have size : byteSize (before ++ [c]) = byteSize before + c.utf8Size := by
        rw [byteSize_append, byteSize_cons, byteSize_nil, Nat.add_zero]
      rw [← size] at found
      have edge := ih found
      rwa [List.append_assoc] at edge

/-- A missing section is reported on one of the lines. -/
theorem line_sectionCountRange_le (s : Source) (tag : Tag) :
    (sectionCountRange s tag).start.line ≤ s.lastLine := by
  unfold sectionCountRange
  cases found : findWord? ('<' :: tag.name.toList) s.text with
  | none => exact Nat.zero_le _
  | some o =>
    have edge : IsEdge ([] ++ s.text) o := isEdge_of_findWordFrom? found
    exact Source.line_position_le edge

/-- The diagnostic is an error, and its range is in order and within the lines of the text. -/
structure Diagnostic.StandsIn (s : Source) (d : Diagnostic) : Prop where
  error : d.severity = .error
  ordered : d.range.Ordered
  first : d.range.start.line ≤ s.lastLine
  last : d.range.stop.line ≤ s.lastLine

namespace Violation

theorem standsIn_report {text : List Char} {span : Span} (framed : IsFramed text span)
    (v : Violation) : (v.report ((Source.ofText text).range span)).StandsIn (.ofText text) := by
  have within : IsFramed (Source.ofText text).text span := framed
  obtain ⟨ordered, first, last⟩ := Source.range_bounds within
  exact ⟨rfl, ordered, first, last⟩

theorem standsIn_missingEnd (s : Source) : (missingEnd.report (missingEndRange s)).StandsIn s where
  error := rfl
  ordered := Or.inr ⟨rfl, Nat.sub_le _ _⟩
  first := Nat.le_refl _
  last := Nat.le_refl _

theorem standsIn_sectionCount (s : Source) (tag : Tag) :
    ((sectionCount tag).report (sectionCountRange s tag)).StandsIn s where
  error := rfl
  ordered := Or.inr ⟨rfl, Nat.zero_le _⟩
  first := line_sectionCountRange_le s tag
  last := line_sectionCountRange_le s tag

end Violation

/-- Reports of framed spans start one after the other if the spans do. -/
theorem pairwise_report {α : Type} {text : List Char} {xs : List α} (span : α → Span)
    (words : α → Violation) (framed : ∀ x ∈ xs, IsFramed text (span x))
    (ordered : xs.Pairwise fun x y => (span x).start < (span y).start) :
    (xs.map fun x => (words x).report ((Source.ofText text).range (span x))).Pairwise
      fun a b => a.range.start < b.range.start := by
  have ranges := pairwise_range span framed ordered
  rw [List.pairwise_map] at ranges ⊢
  exact ranges

namespace Check

variable {text : List Char} {limit : Nat} {c : Check} {d : Diagnostic}

theorem Entry.standsIn (entry : Entry text c d) : d.StandsIn (.ofText text) := by
  cases entry with
  | start => exact ⟨rfl, Or.inr ⟨rfl, Nat.zero_le _⟩, Nat.zero_le _, Nat.zero_le _⟩
  | stop => exact Violation.standsIn_missingEnd _
  | root there _ => exact Violation.standsIn_report (isFramed_opening there) _
  | count part => exact Violation.standsIn_sectionCount _ part.tag
  | tag _ _ offends =>
    exact Violation.standsIn_report (Token.isFramed (Element.mem_offenders_iff.1 offends).1) _
  | element there _ _ _ => exact Violation.standsIn_report (isFramed_outer there) _

/-- An entry alone is in order. -/
theorem pairwise_start_of_single (single : c = start ∨ c = stop ∨ ∃ part, c = count part)
    (s : Source) (doc : Document) :
    (c.report s doc limit).Pairwise fun a b => a.range.start < b.range.start := by
  have short : (c.report s doc limit).length ≤ 1 := length_report_le_one single
  match c.report s doc limit, short with
  | [], _ => exact List.Pairwise.nil
  | [d], _ => exact List.pairwise_singleton _ d

/-- The entries of a check start one after the other. -/
theorem pairwise_start (c : Check) (limit : Nat) (text : List Char) :
    (c.report (.ofText text) (parse text) limit).Pairwise
      fun a b => a.range.start < b.range.start := by
  cases c with
  | start => exact pairwise_start_of_single (Or.inl rfl) _ _
  | stop => exact pairwise_start_of_single (Or.inr (Or.inl rfl)) _ _
  | count part => exact pairwise_start_of_single (Or.inr (Or.inr ⟨part, rfl⟩)) _ _
  | roots =>
    have framed : ∀ e ∈ (parse text).roots.tail, IsFramed text e.opening := fun e later =>
      isFramed_opening (of_mem_roots (List.mem_of_mem_tail later)).1
    have sorted := (pairwise_opening text).sublist
      ((List.tail_sublist _).trans (roots_sublist text))
    rw [report_roots]
    exact pairwise_report (fun e : Element => e.opening) (fun _ => .extraRoot) framed sorted
  | content part =>
    cases found : sections? (.ofText text) (parse text) with
    | none => simp [report, found]
    | some sections =>
      obtain ⟨rule, names, known, only⟩ := part.exists_rule
      have framed : ∀ t ∈ (sections.get part).offenders text rule.containment,
          IsFramed text t.span := fun t offends =>
        Token.isFramed (Element.mem_offenders_iff.1 offends).1
      have sorted := pairwise_offenders text rule.containment (sections.get part)
      rw [report_content found known only]
      exact pairwise_report Token.span (fun _ => .contents rule) framed sorted
  | nesting part =>
    cases found : sections? (.ofText text) (parse text) with
    | none => simp [report, found]
    | some sections =>
      have there := (of_sections? found part).1
      have framed : ∀ breach ∈ ((sections.get part).children.placed []).filterMap
          (Nesting.breach? (.ofText text) (max 1 limit)), IsFramed text breach.1 := by
        intro breach among
        obtain ⟨p, below, broken⟩ := List.mem_filterMap.1 among
        obtain ⟨-, v, -, rfl⟩ := Nesting.breach?_eq_some_iff.1 broken
        exact isFramed_outer
          (Forest.mem_preorder_of_mem_children there (Forest.mem_preorder_of_mem_placed below))
      have sorted := pairwise_breaches there (.ofText text) (max 1 limit)
      rw [report_nesting found]
      exact pairwise_report Prod.fst Prod.snd framed sorted

end Check

/-- **A report is its nine groups in order.** The ends of the text and the number of each section are
reported once at most, and inside every group each entry starts after the one before it. Without a
root only the ends are reported, and with a wrong number of sections nothing that is inside them.
Every entry has words of its group, is an error, and has a range in order within the lines of the
text. -/
theorem diagnostics_in_order (limit : Nat) (text : List Char) :
    let group := Check.report (.ofText text) (parse text) limit
    (validate limit text).diagnostics =
      group .start ++ group .stop ++ group .roots ++ group (.count .head) ++ group (.count .body) ++
        group (.content .head) ++ group (.content .body) ++ group (.nesting .head) ++
        group (.nesting .body) ∧
    ((group .start).length ≤ 1 ∧ (group .stop).length ≤ 1 ∧
      ∀ part, (group (.count part)).length ≤ 1) ∧
    (∀ c, (group c).Pairwise fun a b => a.range.start < b.range.start) ∧
    ((matchRoot (.ofText text) (parse text)).1 = none →
      ∀ c, group c ≠ [] → c = .start ∨ c = .stop) ∧
    (∀ part, group (.count part) ≠ [] →
      ∀ inside, group (.content inside) = [] ∧ group (.nesting inside) = []) ∧
    ∀ c, ∀ d ∈ group c, (∃ v ∈ c.violations, d.message = v.message) ∧
      d.StandsIn (.ofText text) := by
  intro group
  refine ⟨?_, ⟨?_, ?_, ?_⟩, ?_, ?_, ?_, ?_⟩
  · rw [Check.diagnostics_eq_flatMap]
    simp only [Check.all, List.flatMap_cons, List.flatMap_nil, List.append_nil, List.append_assoc,
      group]
  · exact Check.length_report_le_one (Or.inl rfl)
  · exact Check.length_report_le_one (Or.inr (Or.inl rfl))
  · exact fun part => Check.length_report_le_one (Or.inr (Or.inr ⟨part, rfl⟩))
  · exact fun c => c.pairwise_start limit text
  · intro none c some
    by_contra other
    rw [not_or] at other
    exact some (Check.report_of_no_root none other.1 other.2)
  · intro part missing inside
    have none := Check.sections?_eq_none_of_count missing
    simp [group, Check.report, none]
  · intro c d among
    have entry := Check.entry_of_mem_report among
    exact ⟨entry.exists_message_eq, entry.standsIn⟩

end Mhtml
