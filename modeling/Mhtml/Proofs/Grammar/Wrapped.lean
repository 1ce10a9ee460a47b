import Mhtml.Proofs.Grammar.Acceptance
import Mhtml.Proofs.Token.Occurrence
import Mhtml.Proofs.Tree.Laminar

/-!
# How far the root reaches

A text that nothing is reported about starts with `<html>`, ends with `</html>` and
has one root. The two ends are judged by their characters, the root by its pair of
tags, and nothing ties the one to the other. So the root may fall short of the
document: an `<html>` that is never closed can stand before it, and a stray
`</html>` after it. Nothing else can: the root is the whole document just if every
`html` tag without a partner is inside it, which is `root_wraps_iff`.
-/

namespace Mhtml

/-- The tags of this name that have no partner: those of unclosed elements, and stray ones. -/
def Document.lone (d : Document) (tag : Tag) : List Token :=
  (d.descendants.filter fun e => e.tag = tag ∧ e.ending = .unclosed).map (·.openingToken) ++
    d.stray.filter (·.name = tag.name)

theorem Document.mem_lone_iff {d : Document} {tag : Tag} {t : Token} :
    t ∈ d.lone tag ↔
      (∃ e ∈ d.nodes.preorder, e.tag = tag ∧ e.ending = .unclosed ∧ e.openingToken = t) ∨
      t ∈ d.stray ∧ t.name = tag.name := by
  simp [lone, Document.descendants_eq, and_assoc]

section Tags

variable {text : List Char} {e root : Element} {closing : Span} {t : Token}

theorem mem_tokenize_of_mem_lone {tag : Tag} (lone : t ∈ (parse text).lone tag) :
    t ∈ tokenize text := by
  rcases Document.mem_lone_iff.1 lone with ⟨e, found, -, -, opens⟩ | ⟨stray, -⟩
  · exact (exists_openingToken_iff.1 ⟨e, found, opens⟩).1
  · have kind := (parse_holds text).closing t stray
    exact (mem_tokenize_closing_iff kind).2 (Or.inr stray)

/-- A pair has other tags than those without a partner. -/
theorem ne_of_mem_lone {tag : Tag} (lone : t ∈ (parse text).lone tag)
    (found : e ∈ (parse text).nodes.preorder) (closed : e.closing? = some closing) :
    t ≠ e.openingToken ∧ t ≠ ⟨.closing, e.tag.name, closing⟩ := by
  rcases Document.mem_lone_iff.1 lone with ⟨d, there, -, unclosed, rfl⟩ | ⟨stray, -⟩
  · refine ⟨?_, ?_⟩
    · intro same
      have one := Forest.eq_of_opening_eq (spaced_parse text) there found (congrArg Token.span same)
      rw [one] at unclosed
      rw [ElementTags.closing?, unclosed] at closed
      cases closed
    · intro same
      exact d.kind_openingToken (congrArg Token.kind same)
  · refine ⟨?_, ?_⟩
    · rintro rfl
      exact e.kind_openingToken ((parse_holds text).closing _ stray)
    · rintro rfl
      exact not_mem_stray found (ElementTags.closingToken?_eq_some closed) stray

/-- A tag that starts inside a pair, and is none of its own, stands between its tags. -/
theorem encloses_of_start_mem_outer (found : e ∈ (parse text).nodes.preorder)
    (closed : e.closing? = some closing) (tag : t ∈ tokenize text)
    (other : t ≠ e.openingToken ∧ t ≠ ⟨.closing, e.tag.name, closing⟩)
    (inside : t.span.start ∈ e.outer) : e.Encloses t.span := by
  obtain ⟨opens, closes⟩ := tags_mem_tokenize found closed
  have some := ((Token.inOrder_tokenize text).bounds t tag).2
  have first : t.span.stop ≤ e.opening.start ∨ e.opening.stop ≤ t.span.start :=
    Token.apart_of_mem_tokenize tag opens other.1
  have last : t.span.stop ≤ closing.start ∨ closing.stop ≤ t.span.start :=
    Token.apart_of_mem_tokenize tag closes other.2
  rw [ElementTags.outer_of_closing closed, Span.mem_iff] at inside
  dsimp only at inside
  rw [ElementTags.encloses_iff closed]
  omega

/-- If there is one root, every other pair called `html` is below it. -/
theorem eq_or_below_root (only : (parse text).roots = [root])
    (found : e ∈ (parse text).nodes.preorder) (pair : e.isPair .html = true) :
    e = root ∨ e ∈ root.descendants := by
  obtain ⟨foundRoot, pairRoot⟩ := of_roots_eq_singleton only
  have pairedRoot := (Element.isPair_iff.1 pairRoot).2
  obtain ⟨closing, closed⟩ := ElementTags.isPaired_iff.1 pairedRoot
  have among : e ∈ (parse text).nodes.preorder.filter (·.isPair .html) :=
    List.mem_filter.2 ⟨found, pair⟩
  have ordered := (pairwise_opening text).filter (·.isPair .html)
  rw [Document.roots, Document.descendants_eq] at only
  -- The first pair is the root, and all others start before its end.
  cases pairs : (parse text).nodes.preorder.filter (·.isPair .html) with
  | nil =>
    rw [pairs] at among
    cases among
  | cons first rest =>
    rw [pairs] at among ordered only
    rw [outermost, if_neg (Nat.not_lt_zero _), List.cons.injEq, outermost_eq_nil_iff] at only
    obtain ⟨rfl, early⟩ := only
    rcases List.mem_cons.1 among with same | later
    · exact Or.inl same
    · have after : first.opening.start < e.opening.start := (List.pairwise_cons.1 ordered).1 e later
      have tag := (exists_openingToken_iff.1 ⟨e, found, rfl⟩).1
      refine Or.inr ((mem_descendants_iff foundRoot pairedRoot found).2 ?_)
      refine encloses_of_start_mem_outer foundRoot closed tag ⟨?_, ?_⟩ ?_
      · intro same
        have start : e.opening.start = first.opening.start := congrArg (·.span.start) same
        omega
      · intro same
        exact e.kind_openingToken (congrArg Token.kind same)
      · exact ⟨Nat.le_of_lt after, early e later⟩

end Tags

section Ends

variable {text : List Char} (starts : rootStart <+: trimBoth isMargin text)
  (ends : rootEnd <:+ trimBoth isMargin text)

include starts ends

/-- All tags are within the document. -/
theorem within_trimmedSpan {t : Token} (tag : t ∈ tokenize text) :
    t.span.Within (trimmedSpan text) := by
  obtain ⟨first, between, last, tokens, start, stop⟩ := exists_tokenize_eq starts ends
  have ordered := (Token.inOrder_tokenize text).pairwise
  have some := (Token.inOrder_tokenize text).bounds
  rw [tokens] at tag ordered some
  rw [Span.within_iff, ← start, ← stop]
  constructor
  · rcases List.mem_cons.1 tag with rfl | later
    · exact Nat.le_refl _
    · exact Nat.le_of_lt ((List.pairwise_cons.1 ordered).1 t later).1
  · rw [← List.cons_append] at tag ordered some
    have final : last.start < last.stop :=
      (some _ (List.mem_append_right _ (List.mem_singleton_self _))).2
    rcases List.mem_append.1 tag with earlier | here
    · have before : t.span.stop ≤ last.start :=
        ((List.pairwise_append.1 ordered).2.2 t earlier _ (List.mem_singleton_self _)).2
      omega
    · cases List.mem_singleton.1 here
      exact Nat.le_refl _

variable {e : Element} (found : e ∈ (parse text).nodes.preorder) (paired : e.isPaired = true)

include found paired

/-- A pair is within the document. -/
theorem outer_within_trimmedSpan : e.outer.Within (trimmedSpan text) := by
  obtain ⟨closing, closed⟩ := ElementTags.isPaired_iff.1 paired
  obtain ⟨opens, closes⟩ := tags_mem_tokenize found closed
  rw [ElementTags.outer_of_closing closed]
  exact ⟨(within_trimmedSpan starts ends opens).1, (within_trimmedSpan starts ends closes).2⟩

/-- What a pair encloses keeps clear of the ends of the document. -/
theorem lt_of_encloses {span : Span} (within : e.Encloses span) :
    (trimmedSpan text).start < span.start ∧ span.stop < (trimmedSpan text).stop := by
  have whole := outer_within_trimmedSpan starts ends found paired
  obtain ⟨closing, closed⟩ := ElementTags.isPaired_iff.1 paired
  obtain ⟨opens, closes⟩ := tags_mem_tokenize found closed
  have first : e.opening.start < e.opening.stop :=
    ((Token.inOrder_tokenize text).bounds _ opens).2
  have last : closing.start < closing.stop := ((Token.inOrder_tokenize text).bounds _ closes).2
  rw [ElementTags.outer_of_closing closed, Span.within_iff] at whole
  dsimp only at whole
  rw [ElementTags.encloses_iff closed] at within
  omega

end Ends

section Root

variable {text : List Char} {root : Element} (starts : rootStart <+: trimBoth isMargin text)
  (ends : rootEnd <:+ trimBoth isMargin text) (only : (parse text).roots = [root])

include starts ends only

/-- The root starts where the document does, unless an unclosed `html` tag is before it. -/
theorem start_outer_root
    (inside : ∀ t ∈ (parse text).lone .html, root.Encloses t.span) :
    root.outer.start = (trimmedSpan text).start := by
  obtain ⟨foundRoot, pairRoot⟩ := of_roots_eq_singleton only
  have paired := (Element.isPair_iff.1 pairRoot).2
  obtain ⟨first, between, last, tokens, start, -⟩ := exists_tokenize_eq starts ends
  have clear : ¬ root.Encloses first := by
    intro within
    have := (lt_of_encloses starts ends foundRoot paired within).1
    omega
  have tag : ⟨.opening, "html", first⟩ ∈ tokenize text := by
    rw [tokens]
    exact List.mem_cons_self
  obtain ⟨e, found, opens⟩ := exists_openingToken_iff.2 ⟨tag, TagKind.noConfusion⟩
  have span : e.opening = first := congrArg Token.span opens
  have html : e.tag = .html := (isRegular_parse found).tag_eq_iff.2 (congrArg Token.name opens)
  -- The element of the first tag is the root: the root encloses all others called `html`.
  cases ending : e.ending with
  | selfClosing =>
    have plain := e.kind_openingToken_eq_opening_iff.1 (congrArg Token.kind opens)
    simp [ElementTags.isSelfClosing, ending] at plain
  | unclosed =>
    exact absurd (inside _ (Document.mem_lone_iff.2 (Or.inl ⟨e, found, html, ending, opens⟩))) clear
  | closed closing =>
    have closed : e.closing? = some closing := by
      rw [ElementTags.closing?, ending]
    rcases eq_or_below_root only found (Element.isPair_of_closing html closed) with rfl | below
    · show e.opening.start = (trimmedSpan text).start
      rw [span, start]
    · have within := (mem_descendants_iff foundRoot paired found).1 below
      rw [span] at within
      exact absurd within clear

/-- The root ends where the document does, unless a stray `html` tag is after it. -/
theorem stop_outer_root
    (inside : ∀ t ∈ (parse text).lone .html, root.Encloses t.span) :
    root.outer.stop = (trimmedSpan text).stop := by
  obtain ⟨foundRoot, pairRoot⟩ := of_roots_eq_singleton only
  have paired := (Element.isPair_iff.1 pairRoot).2
  obtain ⟨first, between, last, tokens, -, stop⟩ := exists_tokenize_eq starts ends
  have clear : ∀ span : Span, root.Encloses span → span.stop ≠ last.stop := by
    intro span within
    have := (lt_of_encloses starts ends foundRoot paired within).2
    omega
  have tag : ⟨.closing, "html", last⟩ ∈ tokenize text := by
    rw [tokens]
    simp
  rcases (mem_tokenize_closing_iff rfl).1 tag with ⟨e, found, closes⟩ | stray
  · obtain ⟨closing, closed, same⟩ := Option.map_eq_some_iff.1 closes
    have outer : e.outer.stop = last.stop := by
      rw [ElementTags.outer_of_closing closed]
      exact congrArg (·.span.stop) same
    have html : e.tag = .html := (isRegular_parse found).tag_eq_iff.2 (congrArg Token.name same)
    rcases eq_or_below_root only found (Element.isPair_of_closing html closed) with rfl | below
    · rw [outer, stop]
    · exact absurd outer (clear _ (encloses_outer_of_mem_descendants foundRoot paired below))
  · have within := inside _ (Document.mem_lone_iff.2 (Or.inr ⟨stray, rfl⟩))
    exact absurd rfl (clear last within)

/-- The root is the whole document just if all `html` tags without a partner are inside it. -/
theorem outer_eq_trimmedSpan_iff :
    root.outer = trimmedSpan text ↔ ∀ t ∈ (parse text).lone .html, root.Encloses t.span := by
  obtain ⟨foundRoot, pairRoot⟩ := of_roots_eq_singleton only
  obtain ⟨closing, closed⟩ := ElementTags.isPaired_iff.1 (Element.isPair_iff.1 pairRoot).2
  constructor
  · intro whole t lone
    have tag := mem_tokenize_of_mem_lone lone
    have within := within_trimmedSpan starts ends tag
    have some := ((Token.inOrder_tokenize text).bounds t tag).2
    refine encloses_of_start_mem_outer foundRoot closed tag (ne_of_mem_lone lone foundRoot closed) ?_
    rw [whole, Span.mem_iff]
    rw [Span.within_iff] at within
    omega
  · intro inside
    have start := start_outer_root starts ends only inside
    have stop := stop_outer_root starts ends only inside
    show (⟨root.outer.start, root.outer.stop⟩ : Span) = trimmedSpan text
    rw [start, stop]

end Root

/-- A text that nothing is reported about has the right ends, and one root. -/
theorem exists_root_of_clean {limit : Nat} {text : List Char}
    (clean : (validate limit text).diagnostics = []) :
    rootStart <+: trimBoth isMargin text ∧ rootEnd <:+ trimBoth isMargin text ∧
      ∃ root, (parse text).roots = [root] := by
  rw [validate, checkDocument, Pass.diagnostics_append, List.append_eq_nil_iff,
    checkBounds_eq_nil_iff, checkRoot_eq_nil_iff] at clean
  obtain ⟨⟨starts, ends⟩, none | ⟨root, _, _, only, -⟩⟩ := clean
  · exact absurd none (roots_ne_nil starts ends)
  · exact ⟨starts, ends, root, only⟩

/-- **The root of a clean document.** If nothing is reported about a text, a root is found, and it is
within the document. It is the whole document just if every `html` tag without a partner is inside
it. -/
theorem root_wraps_iff (limit : Nat) (text : List Char)
    (clean : (validate limit text).diagnostics = []) :
    ∃ root, (matchRoot (.ofText text) (parse text)).1 = some root ∧
      root.outer.Within (trimmedSpan text) ∧
      (root.outer = trimmedSpan text ↔ ∀ t ∈ (parse text).lone .html, root.Encloses t.span) := by
  obtain ⟨starts, ends, root, only⟩ := exists_root_of_clean clean
  obtain ⟨found, pair⟩ := of_roots_eq_singleton only
  refine ⟨root, ?_, ?_, outer_eq_trimmedSpan_iff starts ends only⟩
  · rw [matchRoot, only]
  · exact outer_within_trimmedSpan starts ends found (Element.isPair_iff.1 pair).2

/-- A document with an unclosed `<html>` inside its root. -/
def coveredMarkup : List Char :=
  "\n<html><p><html></p><head></head><body></body></html>\n".toList

theorem root_wraps_coveredMarkup :
    (validate 1024 coveredMarkup).diagnostics = [] ∧
    ∃ root, (matchRoot (.ofText coveredMarkup) (parse coveredMarkup)).1 = some root ∧
      root.outer.Within (trimmedSpan coveredMarkup) ∧
      (root.outer = trimmedSpan coveredMarkup ↔
        ∀ t ∈ (parse coveredMarkup).lone .html, root.Encloses t.span) := by
  have clean : (validate 1024 coveredMarkup).diagnostics = [] := by decide +kernel
  exact ⟨clean, root_wraps_iff 1024 coveredMarkup clean⟩

/-- A document with an unclosed `<html>` before its root. -/
def exposedMarkup : List Char :=
  "<html><html><head><title>T</title></head><body></body></html>".toList

/-- A clean document may be more than its root. -/
theorem not_forall_outer_eq_trimmedSpan :
    ¬ ∀ (limit : Nat) (text : List Char) (root : Element), (validate limit text).diagnostics = [] →
      (matchRoot (.ofText text) (parse text)).1 = some root → root.outer = trimmedSpan text := by
  intro all
  have clean : (validate 1024 exposedMarkup).diagnostics = [] := by decide +kernel
  have short : (matchRoot (.ofText exposedMarkup) (parse exposedMarkup)).1.map (·.outer) =
      some ⟨6, 61⟩ := by decide +kernel
  have whole : trimmedSpan exposedMarkup = ⟨0, 61⟩ := by decide +kernel
  obtain ⟨root, found, outer⟩ := Option.map_eq_some_iff.1 short
  have same := all 1024 exposedMarkup root clean found
  rw [outer, whole] at same
  cases same

end Mhtml
