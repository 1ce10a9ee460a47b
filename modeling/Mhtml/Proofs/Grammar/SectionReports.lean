import Mhtml.Proofs.Grammar.Locations

/-!
# What is reported about a section

Two checks look into a section, and both take the tree for it. What they report can
be told without the tree. The content check gathers opening tags from the elements
below the section and closing tags from the stray ones, and sorts them: that is one
scan over the tags of the text, `content_reports_scan`. The nesting check goes
through the section once, children first, and folds names together where the limit
stops it: that is each element judged by itself from the text and its tags, no matter
how deep these are, `nesting_reports_breaches`.
-/

namespace Mhtml

/-- The element breaks a rule of nesting, and these are the words for it. -/
inductive Element.Breaks (text : List Char) (e : Element) : String → Prop
  /-- It is a `title` with both tags and has a `<` between them. -/
  | title (pair : e.isPair .title = true) {inner : Span} {piece : List Char}
      (between : e.inner? = some inner) (there : TextAt text inner piece) (markup : '<' ∈ piece) :
      e.Breaks text "title can contain only text"
  /-- It is a `span` with both tags and has a tag that opens a `div` between them. -/
  | span (pair : e.isPair .span = true) {t : Token} (tag : t ∈ tokenize text)
      (opens : t.kind = .opening ∨ t.kind = .selfClosing) (div : t.name = "div")
      (within : e.Encloses t.span) : e.Breaks text "span cannot contain div elements"

/-- At a span there is one text only. -/
theorem TextAt.unique {text piece piece' : List Char} {span : Span} (there : TextAt text span piece)
    (there' : TextAt text span piece') : piece = piece' := by
  have found := Source.slice?_of_textAt (s := .ofText text) there
  have found' := Source.slice?_of_textAt (s := .ofText text) there'
  simpa [found] using found'

theorem TagKind.ne_closing_iff {kind : TagKind} :
    kind ≠ .closing ↔ kind = .opening ∨ kind = .selfClosing := by
  cases kind <;> simp

section

variable {text : List Char} {e : Element}

/-- An element that breaks a rule does not nest well, and the other way round. -/
theorem Element.not_nestsWell_iff (found : e ∈ (parse text).nodes.preorder) :
    ¬ e.NestsWell text ↔ ∃ message, e.Breaks text message := by
  constructor
  · intro bad
    by_contra none
    rw [not_exists] at none
    apply bad
    constructor
    · intro pair
      obtain ⟨inner, piece, between, there⟩ := exists_innerText found (isPair_iff.1 pair).2
      refine ⟨inner, between, piece, there, ?_⟩
      intro markup
      exact none _ (.title pair between there markup)
    · intro pair t tag opens div within
      exact none _ (.span pair tag (TagKind.ne_closing_iff.1 opens) div within)
  · rintro ⟨message, broken⟩ well
    cases broken with
    | title pair between there markup =>
      obtain ⟨inner, same, piece, there', plain⟩ := well.title pair
      cases between.symm.trans same
      cases there.unique there'
      exact plain markup
    | span pair tag opens div within =>
      exact well.span pair _ tag (TagKind.ne_closing_iff.2 opens) div within

/-- Only a `title` and a `span` break rules, and their names tell in which words. -/
theorem Element.Breaks.message_eq {message : String} (broken : e.Breaks text message) {rule : Rule}
    (known : Rule.for? e.tag = some rule) : message = rule.message := by
  cases broken with
  | title pair =>
    rw [(Element.isPair_iff.1 pair).1] at known
    cases known
    rfl
  | span pair =>
    rw [(Element.isPair_iff.1 pair).1] at known
    cases known
    rfl

theorem Nesting.message_violation?_iff (found : e ∈ (parse text).nodes.preorder) {message : String} :
    (violation? (.ofText text) e (namesBelow e)).map Violation.message = some message ↔
      e.Breaks text message := by
  have some_iff : (∃ v, violation? (.ofText text) e (namesBelow e) = some v) ↔
      ∃ message, e.Breaks text message := by
    rw [← Element.not_nestsWell_iff found, ← violation?_eq_none_iff found, ← Ne,
      Option.ne_none_iff_exists']
  rw [Option.map_eq_some_iff]
  constructor
  · rintro ⟨v, violates, rfl⟩
    obtain ⟨rule, known, rfl, -, -⟩ := of_violation?_eq_some violates
    obtain ⟨message, broken⟩ := some_iff.1 ⟨_, violates⟩
    cases broken.message_eq known
    exact broken
  · intro broken
    obtain ⟨v, violates⟩ := some_iff.2 ⟨message, broken⟩
    obtain ⟨rule, known, rfl, -, -⟩ := of_violation?_eq_some violates
    exact ⟨_, violates, (broken.message_eq known).symm⟩

/-- The element with what is said about it, if it is not too deep and breaks a rule. -/
def Nesting.told? (s : Source) (bound : Nat) (p : Placed) : Option (Element × String) :=
  (breach? s bound p).map fun breach => (p.element, breach.2.message)

theorem Nesting.told?_eq_some_iff {s : Source} {bound : Nat} {p : Placed} {message : String} :
    told? s bound p = some (e, message) ↔ p.depth ≤ bound ∧ p.element = e ∧
      (violation? s p.element (namesBelow p.element)).map Violation.message = some message := by
  rw [told?, Option.map_eq_some_iff]
  constructor
  · rintro ⟨breach, broken, same⟩
    obtain ⟨depth, v, violates, rfl⟩ := breach?_eq_some_iff.1 broken
    cases same
    exact ⟨depth, rfl, by rw [violates]; rfl⟩
  · rintro ⟨depth, rfl, words⟩
    obtain ⟨v, violates, rfl⟩ := Option.map_eq_some_iff.1 words
    exact ⟨(p.element.outer, v), breach?_eq_some_iff.2 ⟨depth, v, violates, rfl⟩, rfl⟩

/-- **The nesting check is the rule, element by element.** It reports the elements below a section
that break a rule, on the first level or down to the limit, each once and in the order in which they
open. A `div` that breaks the rule of a `span` may stand at any depth. -/
theorem nesting_reports_breaches (found : e ∈ (parse text).descendants) (limit : Nat) :
    ∃ breaches : List (Element × String),
      (checkNesting (.ofText text) limit e).diagnostics = breaches.map (fun breach =>
        ⟨.error, (Source.ofText text).range breach.1.outer, breach.2⟩) ∧
      (∀ d message, (d, message) ∈ breaches ↔
        (∃ p ∈ e.children.placed [], p.element = d ∧ p.depth ≤ max 1 limit) ∧
          d.Breaks text message) ∧
      breaches.Pairwise fun a b => a.1.opening.start < b.1.opening.start := by
  rw [Document.descendants_eq] at found
  refine ⟨(e.children.placed []).filterMap (Nesting.told? (.ofText text) (max 1 limit)), ?_, ?_, ?_⟩
  · rw [diagnostics_checkNesting found, List.map_filterMap, List.map_filterMap]
    congr 1
    funext p
    cases broken : Nesting.breach? (.ofText text) (max 1 limit) p with
    | none => simp [Nesting.told?, broken]
    | some breach =>
      obtain ⟨-, v, -, rfl⟩ := Nesting.breach?_eq_some_iff.1 broken
      simp [Nesting.told?, broken, Violation.report]
  · intro d message
    rw [List.mem_filterMap]
    constructor
    · rintro ⟨p, below, told⟩
      obtain ⟨depth, rfl, words⟩ := Nesting.told?_eq_some_iff.1 told
      have there := Forest.mem_preorder_of_mem_children found (Forest.mem_preorder_of_mem_placed below)
      exact ⟨⟨p, below, rfl, depth⟩, (Nesting.message_violation?_iff there).1 words⟩
    · rintro ⟨⟨p, below, rfl, depth⟩, broken⟩
      have there := Forest.mem_preorder_of_mem_children found (Forest.mem_preorder_of_mem_placed below)
      refine ⟨p, below, ?_⟩
      exact Nesting.told?_eq_some_iff.2 ⟨depth, rfl, (Nesting.message_violation?_iff there).2 broken⟩
  · have ordered := (pairwise_opening text).sublist (Forest.preorder_sublist_of_mem found)
    rw [← Forest.map_element_placed [], List.pairwise_map] at ordered
    rw [List.pairwise_filterMap]
    apply ordered.imp
    rintro p q before ⟨d, message⟩ told ⟨d', message'⟩ told'
    obtain ⟨-, rfl, -⟩ := Nesting.told?_eq_some_iff.1 told
    obtain ⟨-, rfl, -⟩ := Nesting.told?_eq_some_iff.1 told'
    exact before

/-- A section with a `title` and a `span` that break their rules, the `div` of the `span` being below
the limit and never closed. -/
def deepMarkup : List Char :=
  "<body><span><span><i><div></i></span></span><title>a < b</title></body>".toList

theorem nesting_reports_breaches_deepMarkup :
    ∃ e ∈ (parse deepMarkup).descendants, e.tag = .body ∧
      ∃ breaches : List (Element × String), breaches.length = 2 ∧
        (checkNesting (.ofText deepMarkup) 0 e).diagnostics = breaches.map (fun breach =>
          ⟨.error, (Source.ofText deepMarkup).range breach.1.outer, breach.2⟩) ∧
        ∀ breach ∈ breaches, breach.1.Breaks deepMarkup breach.2 := by
  have there : ∃ e ∈ (parse deepMarkup).descendants, e.tag = .body ∧
      (visitNesting (.ofText deepMarkup) 0 e).violations.length = 2 := by decide +kernel
  obtain ⟨e, found, body, two⟩ := there
  obtain ⟨breaches, reported, exact, -⟩ := nesting_reports_breaches found 0
  refine ⟨e, found, body, breaches, ?_, reported, ?_⟩
  · have size := congrArg List.length reported
    simpa [checkNesting, Nesting.Findings.diagnostics, two] using size.symm
  · rintro ⟨d, message⟩ among
    exact ((exact d message).1 among).2

/-- A tag is reported just if it is among those reported, since no other tag has its range. -/
theorem report_contents_mem_iff {t : Token} {ts : List Token} {rule : Rule}
    (tag : t ∈ tokenize text) (tags : ts ⊆ tokenize text) :
    (Violation.contents rule).report ((Source.ofText text).range t.span) ∈
      ts.map (fun u => (Violation.contents rule).report ((Source.ofText text).range u.span)) ↔
        t ∈ ts := by
  constructor
  · intro reported
    obtain ⟨u, among, same⟩ := List.mem_map.1 reported
    have one := List.inj_on_of_nodup_map (nodup_range_tokenize text) (tags among) tag
      (congrArg Diagnostic.range same)
    rwa [← one]
  · exact List.mem_map_of_mem

/-- An element without a closing tag encloses nothing. -/
theorem Element.offenders_of_not_paired (unpaired : e.isPaired = false) (c : Containment) :
    e.offenders text c = [] := by
  apply List.eq_nil_iff_forall_not_mem.2
  intro t offends
  obtain ⟨inner, between, -⟩ := (mem_offenders_iff.1 offends).2.1
  rw [ElementTags.inner?, ElementTags.isPaired_eq_false_iff.1 unpaired] at between
  cases between

/-- A tag that is an element by itself, or closes one, does not offend. -/
theorem Element.not_mem_offenders {t : Token} (c : Containment)
    (exempt : t.kind = .selfClosing ∨ ∃ d ∈ (parse text).nodes.preorder, d.closingToken? = some t) :
    t ∉ e.offenders text c := by
  intro offends
  obtain ⟨-, -, -, opening | stray⟩ := mem_offenders_iff.1 offends
  · rcases exempt with single | ⟨d, there, closes⟩
    · rw [opening] at single
      cases single
    · rw [ElementTags.kind_of_mem_closingToken? closes] at opening
      cases opening
  · rcases exempt with single | ⟨d, there, closes⟩
    · rw [(mem_tokenize_of_mem_stray stray).2] at single
      cases single
    · exact not_mem_stray there closes stray

/-- **The content check is a scan over the tags.** With a rule of permitted names it reports the tags
between those of the element that have another name and open something or stray, each once and in
source order; and it reports nothing about an element without a closing tag. Tags that are elements by
themselves, and closing tags that have a partner, are never reported. -/
theorem content_reports_scan (found : e ∈ (parse text).descendants) {rule : Rule} {names : List String}
    (known : Rule.for? e.tag = some rule) (only : rule.containment = .only names) :
    let report := fun t : Token =>
      (⟨.error, (Source.ofText text).range t.span, rule.message⟩ : Diagnostic)
    let reported := checkContent (.ofText text) (parse text) e
    reported = ((tokenize text).filter fun t => e.Encloses t.span ∧ t.name ∉ names ∧
      (t.kind = .opening ∨ t.kind = .closing ∧ t ∈ (parse text).stray)).map report ∧
    reported.Pairwise (fun a b => a.range.start < b.range.start) ∧
    (e.isPaired = false → reported = []) ∧
    ∀ t ∈ tokenize text,
      (t.kind = .selfClosing ∨ ∃ d ∈ (parse text).descendants, d.closingToken? = some t) →
        report t ∉ reported := by
  intro report reported
  rw [Document.descendants_eq] at found ⊢
  have gathered : reported = (e.offenders text (.only names)).map report :=
    checkContent_eq found known only (.ofText text)
  have tags : e.offenders text (.only names) ⊆ tokenize text := List.filter_sublist.subset
  refine ⟨?_, ?_, ?_, ?_⟩
  · rw [gathered, Element.offenders]
    congr 1
    apply List.filter_congr
    intro t tag
    have other : Containment.permits t.name (.only names) = false ↔ t.name ∉ names := by
      simp [Containment.permits]
    have stray : t ∈ (parse text).stray ↔ t.kind = .closing ∧ t ∈ (parse text).stray :=
      ⟨fun stray => ⟨(mem_tokenize_of_mem_stray stray).2, stray⟩, And.right⟩
    simp only [other, ← stray]
  · rw [gathered, List.pairwise_map]
    have framed : ∀ t ∈ e.offenders text (.only names), IsFramed text t.span :=
      fun t offends => Token.isFramed (tags offends)
    have ranges := pairwise_range Token.span framed (pairwise_offenders text (.only names) e)
    rwa [List.pairwise_map] at ranges
  · intro unpaired
    rw [gathered, Element.offenders_of_not_paired unpaired, List.map_nil]
  · intro t tag exempt told
    rw [gathered] at told
    exact Element.not_mem_offenders _ exempt ((report_contents_mem_iff tag tags).1 told)

/-- A section that holds a pair, an unclosed tag, a self-closing one and a stray one, none of which it
may. -/
def mixedSection : List Char :=
  "<body><p>x</p><b><i/></u></body>".toList

theorem content_reports_scan_mixedSection :
    ∃ e ∈ (parse mixedSection).descendants, Rule.for? e.tag = Rule.for? .body ∧
      checkContent (.ofText mixedSection) (parse mixedSection) e =
        ([⟨6, 9⟩, ⟨14, 17⟩, ⟨21, 25⟩] : List Span).map fun span =>
          ⟨.error, (Source.ofText mixedSection).range span,
            "body may contain only div or span elements"⟩ := by
  have there : ∃ e ∈ (parse mixedSection).descendants, e.tag = .body ∧
      ((tokenize mixedSection).filter fun t => e.Encloses t.span ∧ t.name ∉ ["div", "span"] ∧
        (t.kind = .opening ∨ t.kind = .closing ∧ t ∈ (parse mixedSection).stray)).map Token.span =
        [⟨6, 9⟩, ⟨14, 17⟩, ⟨21, 25⟩] := by decide +kernel
  obtain ⟨e, found, body, spans⟩ := there
  have known : Rule.for? e.tag = Rule.for? .body := by rw [body]
  refine ⟨e, found, known, ?_⟩
  rw [(content_reports_scan found known rfl).1, ← spans, List.map_map]
  rfl

end

end Mhtml
