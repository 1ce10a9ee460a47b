import Mathlib.Data.List.Perm.Basic
import Mhtml.Grammar.Content
import Mhtml.Proofs.Tree.Laminar

/-!
# What the content check finds

The content of a section is searched in the tree for what was opened there, and
among the stray tags, and what was found is sorted. `offendingTags_eq` tells the
outcome from the tags of the text alone: it is a filter over them, in source order.
So the check passes just if every opening tag and every stray tag between the tags
of the section has a name that is permitted.
-/

namespace Mhtml

/-- The opening tags and the stray tags between the tags of the element have these names only. -/
structure Element.HoldsOnly (text : List Char) (names : List String) (e : Element) : Prop where
  opened : ∀ t ∈ tokenize text, t.kind = .opening → e.Encloses t.span → t.name ∈ names
  stray : ∀ t ∈ (parse text).stray, e.Encloses t.span → t.name ∈ names

instance (e : ElementTags) (span : Span) : Decidable (e.Encloses span) :=
  inferInstanceAs (Decidable (∃ inner ∈ e.inner?, span.Within inner))

/-- The tags between those of an element that it may not hold: those that open something, and stray
ones. -/
def Element.offenders (text : List Char) (c : Containment) (e : Element) : List Token :=
  (tokenize text).filter fun t => e.Encloses t.span ∧ c.permits t.name = false ∧
    (t.kind = .opening ∨ t ∈ (parse text).stray)

theorem ElementTags.kind_openingToken_eq_opening_iff (e : ElementTags) :
    e.openingToken.kind = .opening ↔ e.isSelfClosing = false := by
  rw [openingToken]
  cases e.isSelfClosing <;> simp

section

variable {text : List Char} {e : Element} {c : Containment} {t : Token} {names : List String}

/-- The stray tags found inside a section are those between its tags. -/
theorem mem_strayWithin_iff {d : Document} :
    t ∈ e.inner?.elim [] d.strayWithin ↔ t ∈ d.stray ∧ e.Encloses t.span := by
  unfold ElementTags.Encloses
  cases e.inner? with
  | none => simp
  | some inner => simp [Document.strayWithin]

theorem Element.mem_offenders_iff :
    t ∈ e.offenders text c ↔ t ∈ tokenize text ∧ e.Encloses t.span ∧ c.permits t.name = false ∧
      (t.kind = .opening ∨ t ∈ (parse text).stray) := by
  rw [offenders, List.mem_filter, decide_eq_true_eq]

/-- The tags that an element may not hold start one after the other. -/
theorem pairwise_offenders (text : List Char) (c : Containment) (e : Element) :
    (e.offenders text c).Pairwise fun t u => t.span.start < u.span.start :=
  ((Token.inOrder_tokenize text).pairwise.imp And.left).filter _

theorem mem_tokenize_of_mem_stray (stray : t ∈ (parse text).stray) :
    t ∈ tokenize text ∧ t.kind = .closing :=
  ⟨(parse_holds text).stray_sublist.subset stray, (parse_holds text).closing t stray⟩

/-- The elements below an element are opened by the tags that it encloses, also if it has no closing
tag and encloses nothing. -/
theorem exists_openingToken_below_iff (found : e ∈ (parse text).nodes.preorder)
    (opens : t.kind ≠ .closing) :
    (∃ d ∈ e.children.preorder, d.openingToken = t) ↔ t ∈ tokenize text ∧ e.Encloses t.span := by
  cases paired : e.isPaired with
  | true => exact (encloses_tag_iff found paired opens).symm
  | false =>
    have none : e.inner? = none := by
      rw [ElementTags.inner?, ElementTags.isPaired_eq_false_iff.1 paired, Option.map_none]
    rw [(isRegular_parse found).childless paired]
    simp [Forest.preorder, ElementTags.Encloses, none]

/-- What the content check gathers, as tags: first from the tree, then from the stray ones. -/
def gathered (d : Document) (c : Containment) (e : Element) : List Token :=
  (e.descendants.filter fun child =>
      !child.isSelfClosing && !c.permits child.tag.name).map (·.openingToken) ++
    (e.inner?.elim [] d.strayWithin).filter fun token => !c.permits token.name

theorem mem_gathered_iff (found : e ∈ (parse text).nodes.preorder) :
    t ∈ gathered (parse text) c e ↔ t ∈ e.offenders text c := by
  rw [gathered, Element.descendants_eq, Element.mem_offenders_iff, List.mem_append, List.mem_filter,
    mem_strayWithin_iff, List.mem_map]
  simp only [List.mem_filter, Bool.and_eq_true, Bool.not_eq_true']
  constructor
  · rintro (⟨d, ⟨below, plain, excluded⟩, rfl⟩ | ⟨⟨stray, within⟩, excluded⟩)
    · obtain ⟨tag, within⟩ :=
        (exists_openingToken_below_iff found d.kind_openingToken).1 ⟨d, below, rfl⟩
      exact ⟨tag, within, excluded, Or.inl (d.kind_openingToken_eq_opening_iff.2 plain)⟩
    · exact ⟨(mem_tokenize_of_mem_stray stray).1, within, excluded, Or.inr stray⟩
  · rintro ⟨tag, within, excluded, opening | stray⟩
    · have opens : t.kind ≠ .closing := by
        rw [opening]
        decide
      obtain ⟨d, below, rfl⟩ := (exists_openingToken_below_iff found opens).2 ⟨tag, within⟩
      exact Or.inl ⟨d, ⟨below, d.kind_openingToken_eq_opening_iff.1 opening, excluded⟩, rfl⟩
    · exact Or.inr ⟨⟨stray, within⟩, excluded⟩

/-- No tag is gathered twice: those from the tree open something, and stray ones close. -/
theorem nodup_gathered (found : e ∈ (parse text).nodes.preorder) :
    (gathered (parse text) c e).Nodup := by
  have tags : (tokenize text).Nodup := (Token.nodup_start_tokenize text).of_map _
  refine List.nodup_append.2 ⟨?_, ?_, ?_⟩
  · have below := (pairwise_opening text).sublist (Forest.preorder_sublist_of_mem found)
    rw [Element.descendants_eq]
    refine List.pairwise_map.2 ((below.filter _).imp ?_)
    intro d d' before same
    have start : d.opening.start = d'.opening.start := congrArg (·.span.start) same
    omega
  · have strays : (parse text).stray.Nodup := tags.sublist (parse_holds text).stray_sublist
    cases e.inner? with
    | none => exact List.nodup_nil
    | some inner => exact (strays.filter _).filter _
  · rintro _ opened t stray rfl
    obtain ⟨d, -, rfl⟩ := List.mem_map.1 opened
    have there := (mem_strayWithin_iff.1 (List.mem_filter.1 stray).1).1
    exact d.kind_openingToken (mem_tokenize_of_mem_stray there).2

/-- The content check reports the tags that an element may not hold, in source order. -/
theorem offendingTags_eq (found : e ∈ (parse text).nodes.preorder) (c : Containment) :
    offendingTags (parse text) e c = (e.offenders text c).map (·.span) := by
  have ordered := pairwise_offenders text c e
  have once : (e.offenders text c).Nodup :=
    ((Token.nodup_start_tokenize text).of_map _).filter _
  have same : (gathered (parse text) c e).Perm (e.offenders text c) :=
    (List.perm_ext_iff_of_nodup (nodup_gathered found) once).2 fun _ => mem_gathered_iff found
  have spans := same.map (·.span)
  rw [gathered, List.map_append, List.map_map] at spans
  exact mergeSort_eq_of_perm Span.start spans (List.pairwise_map.2 ordered)

/-- What is reported with a rule of permitted names. -/
theorem checkContent_eq (found : e ∈ (parse text).nodes.preorder) {rule : Rule}
    (known : Rule.for? e.tag = some rule) (only : rule.containment = .only names) (s : Source) :
    checkContent s (parse text) e = (e.offenders text (.only names)).map
      fun t => (Violation.contents rule).report (s.range t.span) := by
  rw [checkContent, known]
  dsimp only
  rw [only]
  dsimp only
  rw [offendingTags_eq found, List.map_map]
  rfl

/-- No tag inside a section offends just if the section holds only what it may. -/
theorem Element.offenders_eq_nil_iff : e.offenders text (.only names) = [] ↔ e.HoldsOnly text names := by
  have excluded : ∀ name : String,
      Containment.permits name (.only names) = false ↔ name ∉ names := by
    simp [Containment.permits]
  rw [List.eq_nil_iff_forall_not_mem]
  simp only [Element.mem_offenders_iff, excluded]
  constructor
  · intro none
    refine ⟨fun t tag opening within => ?_, fun t stray within => ?_⟩
    · exact Decidable.by_contra fun other => none t ⟨tag, within, other, Or.inl opening⟩
    · have tag := (mem_tokenize_of_mem_stray stray).1
      exact Decidable.by_contra fun other => none t ⟨tag, within, other, Or.inr stray⟩
  · rintro only t ⟨tag, within, other, opening | stray⟩
    · exact other (only.opened t tag opening within)
    · exact other (only.stray t stray within)

/-- A section with a rule of permitted names passes just if it holds only those. -/
theorem checkContent_eq_nil_iff (found : e ∈ (parse text).nodes.preorder)
    {rule : Rule} (known : Rule.for? e.tag = some rule) (only : rule.containment = .only names)
    (s : Source) : checkContent s (parse text) e = [] ↔ e.HoldsOnly text names := by
  rw [checkContent_eq found known only, List.map_eq_nil_iff, Element.offenders_eq_nil_iff]

end

end Mhtml
