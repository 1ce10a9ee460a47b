import Mhtml.Proofs.Grammar.ReportOrder

/-!
# What is reported twice

Entries of one check differ in where they start, and those of different checks in
their words. Only nesting is told in the same words for both sections, and the two
sections need not be apart: each is any pair of its name below the root, so one may
be below the other. What is below the inner one is then judged twice, once for each
section, and `nodup_iff_disjoint_nesting` says that nothing else can be repeated.
-/

namespace Mhtml

/-- The element is below both sections, and not too deep in either. -/
def Sections.Shares (sections : Sections) (bound : Nat) (e : Element) : Prop :=
  ∀ part, ∃ p ∈ (sections.get part).children.placed [], p.element = e ∧ p.depth ≤ bound

section Parsed

variable {text : List Char} {limit : Nat} {sections : Sections}

theorem mem_report_nesting_iff (found : sections? (.ofText text) (parse text) = some sections)
    (part : Section) {d : Diagnostic} :
    d ∈ (Check.nesting part).report (.ofText text) (parse text) limit ↔
      ∃ p ∈ (sections.get part).children.placed [], p.depth ≤ max 1 limit ∧
        ∃ v, Nesting.violation? (.ofText text) p.element (Nesting.namesBelow p.element) = some v ∧
          v.report ((Source.ofText text).range p.element.outer) = d := by
  rw [report_nesting found, List.mem_map]
  constructor
  · rintro ⟨breach, among, rfl⟩
    obtain ⟨p, below, broken⟩ := List.mem_filterMap.1 among
    obtain ⟨depth, v, violates, rfl⟩ := Nesting.breach?_eq_some_iff.1 broken
    exact ⟨p, below, depth, v, violates, rfl⟩
  · rintro ⟨p, below, depth, v, violates, rfl⟩
    refine ⟨(p.element.outer, v), List.mem_filterMap.2 ⟨p, below, ?_⟩, rfl⟩
    exact Nesting.breach?_eq_some_iff.2 ⟨depth, v, violates, rfl⟩

/-- What is placed in a section is an element of the document. -/
theorem mem_preorder_of_mem_section (found : sections? (.ofText text) (parse text) = some sections)
    {part : Section} {p : Placed} (below : p ∈ (sections.get part).children.placed []) :
    p.element ∈ (parse text).nodes.preorder :=
  Forest.mem_preorder_of_mem_children (of_sections? found part).1
    (Forest.mem_preorder_of_mem_placed below)

/-- The same is reported about the nesting in both sections just if they share an element that does
not nest well. -/
theorem disjoint_nesting_iff (found : sections? (.ofText text) (parse text) = some sections) :
    List.Disjoint ((Check.nesting .head).report (.ofText text) (parse text) limit)
        ((Check.nesting .body).report (.ofText text) (parse text) limit) ↔
      ∀ e, sections.Shares (max 1 limit) e → e.NestsWell text := by
  constructor
  · intro apart e shared
    obtain ⟨p, inHead, rfl, depth⟩ := shared .head
    obtain ⟨q, inBody, same, depth'⟩ := shared .body
    rw [← Nesting.violation?_eq_none_iff (mem_preorder_of_mem_section found inHead)]
    by_contra broken
    obtain ⟨v, violates⟩ := Option.ne_none_iff_exists'.1 broken
    apply apart ((mem_report_nesting_iff found .head).2 ⟨p, inHead, depth, v, violates, rfl⟩)
    rw [← same] at violates ⊢
    exact (mem_report_nesting_iff found .body).2 ⟨q, inBody, depth', v, violates, rfl⟩
  · intro well d left right
    obtain ⟨p, inHead, depth, v, violates, rfl⟩ := (mem_report_nesting_iff found .head).1 left
    obtain ⟨q, inBody, depth', w, -, same⟩ := (mem_report_nesting_iff found .body).1 right
    have there := mem_preorder_of_mem_section found inHead
    have one : q.element = p.element :=
      List.inj_on_of_nodup_map (nodup_range_outer text) (mem_preorder_of_mem_section found inBody)
        there (congrArg Diagnostic.range same)
    have shared : sections.Shares (max 1 limit) p.element := by
      intro part
      cases part with
      | head => exact ⟨p, inHead, rfl, depth⟩
      | body => exact ⟨q, inBody, one, depth'⟩
    have none := (Nesting.violation?_eq_none_iff there).2 (well p.element shared)
    rw [violates] at none
    cases none

/-- Sections that share an element are not apart. -/
theorem mem_descendants_of_shares (found : sections? (.ofText text) (parse text) = some sections)
    {bound : Nat} {e : Element} (shared : sections.Shares bound e) :
    sections.body ∈ sections.head.descendants ∨ sections.head ∈ sections.body.descendants := by
  obtain ⟨head, tagHead, pairedHead⟩ := of_sections? found .head
  obtain ⟨body, tagBody, pairedBody⟩ := of_sections? found .body
  have below : ∀ part, e ∈ (sections.get part).descendants := by
    intro part
    obtain ⟨p, inside, rfl, -⟩ := shared part
    rw [Element.descendants_eq]
    exact Forest.mem_preorder_of_mem_placed inside
  rcases eq_or_mem_descendants head pairedHead body pairedBody (below .head) (below .body) with
    same | nested
  · rw [same, tagBody] at tagHead
    cases tagHead
  · exact nested

end Parsed

namespace Check

/-- Nothing is repeated inside a group. -/
theorem nodup_report (c : Check) (limit : Nat) (text : List Char) :
    (c.report (.ofText text) (parse text) limit).Nodup := by
  refine (c.pairwise_start limit text).imp ?_
  rintro d _ before rfl
  exact Position.lt_irrefl _ before

/-- Groups have nothing in common if they do not have the same words. -/
theorem disjoint_report {c c' : Check} (ne : c ≠ c')
    (words : ¬ (c.isNesting = true ∧ c'.isNesting = true)) (limit : Nat) (text : List Char) :
    List.Disjoint (c.report (.ofText text) (parse text) limit)
      (c'.report (.ofText text) (parse text) limit) := by
  intro d left right
  obtain ⟨v, own, message⟩ := (entry_of_mem_report right).exists_message_eq
  rcases (entry_of_mem_report left).eq_or_isNesting own message with same | nesting
  · exact ne same
  · exact words nesting

end Check

/-- A report has no repetition just if the two groups about nesting have nothing in common. -/
theorem nodup_iff_disjoint_nesting (limit : Nat) (text : List Char) :
    (validate limit text).diagnostics.Nodup ↔
      List.Disjoint ((Check.nesting .head).report (.ofText text) (parse text) limit)
        ((Check.nesting .body).report (.ofText text) (parse text) limit) := by
  rw [Check.diagnostics_eq_flatMap, List.nodup_flatMap]
  constructor
  · rintro ⟨-, apart⟩
    have symmetric : Std.Symm (Function.onFun List.Disjoint
        (Check.report (.ofText text) (parse text) limit)) := ⟨fun _ _ => List.disjoint_symm⟩
    exact apart.forall (Check.mem_all _) (Check.mem_all _) (by decide)
  · intro nesting
    refine ⟨fun c _ => c.nodup_report limit text, ?_⟩
    have once : Check.all.Nodup := by decide
    refine once.pairwise_of_forall_ne ?_
    intro c _ c' _ ne
    -- Different groups have the same words only if they are the two about nesting.
    by_cases words : c.isNesting = true ∧ c'.isNesting = true
    · cases c with
      | nesting part =>
        cases c' with
        | nesting part' =>
          cases part with
          | head =>
            cases part' with
            | head => exact absurd rfl ne
            | body => exact nesting
          | body =>
            cases part' with
            | head => exact List.disjoint_symm nesting
            | body => exact absurd rfl ne
        | _ => cases words.2
      | _ => cases words.1
    · exact Check.disjoint_report ne words limit text

/-- **When a report has no repetition.** That is just if every element that both sections share nests
well, down to the limit. Sections that are not one below the other share nothing, so nothing is
repeated then. -/
theorem diagnostics_nodup_iff (limit : Nat) (text : List Char) :
    ((validate limit text).diagnostics.Nodup ↔
      ∀ sections ∈ sections? (.ofText text) (parse text), ∀ e, sections.Shares (max 1 limit) e →
        e.NestsWell text) ∧
    ((∀ sections ∈ sections? (.ofText text) (parse text),
        sections.body ∉ sections.head.descendants ∧ sections.head ∉ sections.body.descendants) →
      (validate limit text).diagnostics.Nodup) := by
  rw [nodup_iff_disjoint_nesting]
  cases found : sections? (.ofText text) (parse text) with
  | none => simp [Check.report, found]
  | some sections =>
    rw [disjoint_nesting_iff found]
    refine ⟨⟨?_, fun well => well sections rfl⟩, ?_⟩
    · rintro well _ same
      cases same
      exact well
    · intro apart e shared
      obtain ⟨noBody, noHead⟩ := apart sections rfl
      rcases mem_descendants_of_shares found shared with nested | nested
      · exact absurd nested noBody
      · exact absurd nested noHead

/-- A document whose body is in its head, with a `title` in it that holds more than text. -/
def nestedMarkup : List Char :=
  "<html><head><body><title><</title></body></head></html>".toList

/-- The same can be reported twice. -/
theorem not_forall_diagnostics_nodup :
    ¬ ∀ (limit : Nat) (text : List Char), byteSize text < 2 ^ 32 →
      (validate limit text).diagnostics.Nodup := by
  intro all
  have short : byteSize nestedMarkup < 2 ^ 32 := by decide +kernel
  have twice : ¬ (validate 1024 nestedMarkup).diagnostics.Nodup := by decide +kernel
  exact twice (all 1024 nestedMarkup short)

end Mhtml
