import Mhtml.Proofs.Grammar.Checks
import Mhtml.Proofs.Source.Ranges

/-!
# Where reports point

A report gives lines and columns. What it is about can be read off them all the
same: tags and elements start with a `<` and end with a `>`, so the range of one
leads back to its span, and no other tag or element has that range.
`locations_decode` puts this together for each kind of report that points at a tag
or at an element.
-/

namespace Mhtml

section Framed

variable {text : List Char} {e : Element}

/-- A tag is framed by its brackets. -/
theorem Token.isFramed {t : Token} (found : t ∈ tokenize text) : IsFramed text t.span := by
  obtain ⟨j, body, stop, ⟨there, -⟩, -⟩ := Token.mem_tokenize_iff.1 found
  have size : ∀ c : Char, c = '<' ∨ c = '>' → byteSize [c] = 1 := by
    rintro c (rfl | rfl) <;> rfl
  rw [← stop] at there
  constructor
  case some => exact ((Token.inOrder_tokenize text).bounds t found).2
  case opens =>
    have parts : TextAt text t.span (['<'] ++ (body ++ ['>'])) := there
    have first := parts.left
    rwa [size '<' (Or.inl rfl)] at first
  case closes =>
    have parts : TextAt text t.span (('<' :: body) ++ ['>']) := there
    have last := parts.right
    rwa [size '>' (Or.inr rfl)] at last

theorem isFramed_opening (found : e ∈ (parse text).nodes.preorder) : IsFramed text e.opening :=
  Token.isFramed (exists_openingToken_iff.1 ⟨e, found, rfl⟩).1

/-- An element is framed by the brackets of its tags. -/
theorem isFramed_outer (found : e ∈ (parse text).nodes.preorder) : IsFramed text e.outer := by
  have opens := isFramed_opening found
  cases closed : e.closing? with
  | none =>
    have own : e.outer = e.opening := by
      rw [ElementTags.outer, closed]
      rfl
    rwa [own]
  | some closing =>
    have closes := Token.isFramed (tags_mem_tokenize found closed).2
    have order := Forest.opening_le_closing (spaced_parse text) found closed
    have first := opens.some
    have last : closing.start < closing.stop := closes.some
    rw [ElementTags.outer_of_closing closed]
    refine ⟨?_, opens.opens, closes.closes⟩
    show e.opening.start < closing.stop
    omega

/-- The ranges of framed spans start one after the other if the spans do. -/
theorem pairwise_range {α : Type} {xs : List α} (span : α → Span)
    (framed : ∀ x ∈ xs, IsFramed text (span x))
    (ordered : xs.Pairwise fun x y => (span x).start < (span y).start) :
    (xs.map fun x => (Source.ofText text).range (span x)).Pairwise fun a b => a.start < b.start := by
  refine List.pairwise_map.2 (ordered.imp_of_mem ?_)
  intro x y left right before
  exact Source.position_lt (framed x left).opens.isEdge.1 (framed y right).opens.isEdge.1 before

theorem nodup_of_pairwise_start {ranges : List Range}
    (ordered : ranges.Pairwise fun a b => a.start < b.start) : ranges.Nodup := by
  refine ordered.imp ?_
  rintro a _ before rfl
  exact Position.lt_irrefl _ before

/-- No two tags have the same range. -/
theorem nodup_range_tokenize (text : List Char) :
    ((tokenize text).map fun t => (Source.ofText text).range t.span).Nodup := by
  apply nodup_of_pairwise_start
  apply pairwise_range Token.span
  · exact fun t => Token.isFramed
  · exact (Token.inOrder_tokenize text).pairwise.imp And.left

/-- No two elements have the same range. -/
theorem nodup_range_outer (text : List Char) :
    ((parse text).nodes.preorder.map fun e => (Source.ofText text).range e.outer).Nodup := by
  apply nodup_of_pairwise_start
  apply pairwise_range fun e : Element => e.outer
  · exact fun e => isFramed_outer
  · exact pairwise_opening text

end Framed

namespace Check

variable {text : List Char} {c : Check} {d : Diagnostic}

/-- A report of a further root points at the opening tag of a pair called `html`. -/
theorem Entry.root_of_message (entry : Entry text c d)
    (told : d.message = Violation.extraRoot.message) :
    ∃ e ∈ (parse text).descendants, e.isPair .html = true ∧
      ⟨.opening, "html", e.opening⟩ ∈ tokenize text ∧
      (Source.ofText text).Locates d.range e.opening := by
  have own : Violation.extraRoot ∈ roots.violations := List.mem_cons_self
  rcases entry.eq_or_isNesting own told with rfl | ⟨-, nesting⟩
  · cases entry with
    | @root e there pair =>
      obtain ⟨html, paired⟩ := Element.isPair_iff.1 pair
      have tag := (exists_openingToken_iff.1 ⟨e, there, rfl⟩).1
      have plain : e.isSelfClosing = false := by
        cases single : e.isSelfClosing with
        | false => rfl
        | true =>
          rw [ElementTags.isPaired, ElementTags.closing?_of_isSelfClosing single] at paired
          cases paired
      rw [ElementTags.openingToken, plain, html] at tag
      exact ⟨e, (parse text).descendants_eq ▸ there, pair, tag,
        Source.locates_range (isFramed_opening there)⟩
  · cases nesting

/-- A report about the content of a section points at a tag between those of the section that opens
something or strays, and whose name is not permitted. -/
theorem Entry.tag_of_message (entry : Entry text c d) {part : Section} {rule : Rule}
    (known : Rule.for? part.tag = some rule) (told : d.message = rule.message) :
    ∃ sections ∈ sections? (.ofText text) (parse text), ∃ t ∈ tokenize text,
      (t.kind = .opening ∨ t.kind = .closing ∧ t ∈ (parse text).stray) ∧
      (sections.get part).Encloses t.span ∧ rule.containment.permits t.name = false ∧
      (Source.ofText text).Locates d.range t.span := by
  have own : Violation.contents rule ∈ (content part).violations := by
    rw [violations, known]
    exact List.mem_cons_self
  rcases entry.eq_or_isNesting own told with rfl | ⟨-, nesting⟩
  · cases entry with
    | @tag _ sections rule' t found known' offends =>
      cases known.symm.trans known'
      obtain ⟨tag, within, excluded, kind⟩ := Element.mem_offenders_iff.1 offends
      refine ⟨sections, found, t, tag, ?_, within, excluded,
        Source.locates_range (Token.isFramed tag)⟩
      exact kind.imp_right fun stray => ⟨(mem_tokenize_of_mem_stray stray).2, stray⟩
  · cases nesting

/-- A report about nesting points at an element with both tags, which its words name. -/
theorem Entry.element_of_message (entry : Entry text c d) {tag : Tag}
    (judged : tag ∈ [Tag.title, Tag.span]) {rule : Rule} (known : Rule.for? tag = some rule)
    (told : d.message = rule.message) :
    ∃ e ∈ (parse text).descendants, e.isPair tag = true ∧
      (Source.ofText text).Locates d.range e.outer := by
  have own : Violation.contents rule ∈ (nesting .head).violations :=
    List.mem_map_of_mem (List.mem_filterMap.2 ⟨tag, judged, known⟩)
  have about : c.isNesting = true := by
    rcases entry.eq_or_isNesting own told with rfl | ⟨both, -⟩
    · rfl
    · exact both
  cases entry with
  | @element part e rule' there paired named known' =>
    -- The two rules have different words, so these tell the name.
    have same : e.tag = tag := by
      have apart : ∀ left ∈ [Tag.title, Tag.span], ∀ right ∈ [Tag.title, Tag.span],
          (Rule.for? left).map Rule.message = (Rule.for? right).map Rule.message →
            left = right := by
        decide +kernel
      refine apart e.tag named tag judged ?_
      rw [known', known, Option.map_some, Option.map_some]
      exact congrArg some told
    exact ⟨e, (parse text).descendants_eq ▸ there, Element.isPair_iff.2 ⟨same, paired⟩,
      Source.locates_range (isFramed_outer there)⟩
  | _ => cases about

end Check

/-- **Reports lead back to what they are about.** The two ends of the range of a report have offsets,
with a `<` at the first and a `>` before the second. For a further root these are the ends of the
opening tag of a pair called `html`, for the content of a section those of a tag in it that may not be
there, and for nesting those of a `title` or `span` with both tags. No two tags have the same range,
and no two elements. -/
theorem locations_decode (limit : Nat) (text : List Char) :
    (∀ d ∈ (validate limit text).diagnostics,
      (d.message = Violation.extraRoot.message →
        ∃ e ∈ (parse text).descendants, e.isPair .html = true ∧
          ⟨.opening, "html", e.opening⟩ ∈ tokenize text ∧
          (Source.ofText text).Locates d.range e.opening) ∧
      (∀ (part : Section), ∀ rule ∈ Rule.for? part.tag, d.message = rule.message →
        ∃ sections ∈ sections? (.ofText text) (parse text), ∃ t ∈ tokenize text,
          (t.kind = .opening ∨ t.kind = .closing ∧ t ∈ (parse text).stray) ∧
          (sections.get part).Encloses t.span ∧ rule.containment.permits t.name = false ∧
          (Source.ofText text).Locates d.range t.span) ∧
      (∀ tag ∈ [Tag.title, Tag.span], ∀ rule ∈ Rule.for? tag, d.message = rule.message →
        ∃ e ∈ (parse text).descendants, e.isPair tag = true ∧
          (Source.ofText text).Locates d.range e.outer)) ∧
    ((tokenize text).map fun t => (Source.ofText text).range t.span).Nodup ∧
    ((parse text).descendants.map fun e => (Source.ofText text).range e.outer).Nodup := by
  refine ⟨?_, nodup_range_tokenize text, ?_⟩
  · intro d among
    rw [Check.diagnostics_eq_flatMap] at among
    obtain ⟨c, -, reported⟩ := List.mem_flatMap.1 among
    have entry := Check.entry_of_mem_report reported
    exact ⟨entry.root_of_message, fun part rule => entry.tag_of_message,
      fun tag judged rule => entry.element_of_message judged⟩
  · rw [Document.descendants_eq]
    exact nodup_range_outer text

/-- A document with a report of each kind, one of them about a tag on two lines. -/
def misplacedMarkup : List Char :=
  "<html><head></head><body><p é\n></p><span><div></div></span></body></html><html></html>".toList

theorem locations_decode_misplacedMarkup :
    (∃ d ∈ (validate 1024 misplacedMarkup).diagnostics,
      d.message = Violation.extraRoot.message ∧ ∃ e ∈ (parse misplacedMarkup).descendants,
        e.isPair .html = true ∧ (Source.ofText misplacedMarkup).Locates d.range e.opening) ∧
    (∃ d ∈ (validate 1024 misplacedMarkup).diagnostics,
      d.message = "body may contain only div or span elements" ∧ ∃ t ∈ tokenize misplacedMarkup,
        (Source.ofText misplacedMarkup).Locates d.range t.span) ∧
    ∃ d ∈ (validate 1024 misplacedMarkup).diagnostics,
      d.message = "span cannot contain div elements" ∧ ∃ e ∈ (parse misplacedMarkup).descendants,
        e.isPair .span = true ∧ (Source.ofText misplacedMarkup).Locates d.range e.outer := by
  have all := (locations_decode 1024 misplacedMarkup).1
  have told : ∀ message ∈ [Violation.extraRoot.message, "body may contain only div or span elements",
      "span cannot contain div elements"],
      ∃ d ∈ (validate 1024 misplacedMarkup).diagnostics, d.message = message := by decide +kernel
  refine ⟨?_, ?_, ?_⟩
  · obtain ⟨d, among, message⟩ := told Violation.extraRoot.message (by simp)
    obtain ⟨e, there, pair, -, located⟩ := (all d among).1 message
    exact ⟨d, among, message, e, there, pair, located⟩
  · obtain ⟨d, among, message⟩ := told "body may contain only div or span elements" (by simp)
    obtain ⟨-, -, t, tag, -, -, -, located⟩ := (all d among).2.1 .body _ rfl message
    exact ⟨d, among, message, t, tag, located⟩
  · obtain ⟨d, among, message⟩ := told "span cannot contain div elements" (by simp)
    obtain ⟨e, there, pair, located⟩ := (all d among).2.2 .span (by simp) _ rfl message
    exact ⟨d, among, message, e, there, pair, located⟩

end Mhtml
