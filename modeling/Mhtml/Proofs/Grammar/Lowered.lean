import Mathlib.Data.List.Infix
import Mhtml.Proofs.Grammar.Checks
import Mhtml.Proofs.Tree.Skeleton

/-!
# Reports about a text further down

What is reported about a text moves down with it. The checks read a document by
its skeleton, so each of them reports the same about the document and about its
skeleton moved on, `k` lines further down. Two places do not move: that of a
missing start, and that of a missing or repeated section when no tag of its name is
found. `diagnostics_lowered` says this of a whole pass.
-/

namespace Mhtml

/-- The diagnostic `k` lines further down. -/
def Diagnostic.down (k : Nat) (d : Diagnostic) : Diagnostic :=
  ⟨d.severity, d.range.down k, d.message⟩

theorem Source.Lowers.report {k : Nat} {s s' : Source} (lowers : Lowers k s s') (v : Violation)
    (span : Span) : v.report (s'.range (span.shift k)) = (v.report (s.range span)).down k :=
  congrArg v.report (lowers.range span)

/-! ## Roots and sections -/

theorem Element.isPair_skeleton (k : Nat) (e : Element) (tag : Tag) :
    (e.skeleton k).isPair tag = e.isPair tag := by
  show ((e.shift k).tag == tag && (e.shift k).isPaired) = _
  rw [ElementTags.tag_shift, ElementTags.isPaired_shift, isPair]

theorem filter_isPair_skeleton (k : Nat) (es : List Element) (tag : Tag) :
    (es.map (Element.skeleton k)).filter (·.isPair tag) =
      (es.filter (·.isPair tag)).map (Element.skeleton k) := by
  rw [List.filter_map]
  congr 2
  funext e
  exact e.isPair_skeleton k tag

theorem outermost_skeleton (k covered : Nat) (es : List Element) :
    outermost (covered + k) (es.map (Element.skeleton k)) =
      (outermost covered es).map (Element.skeleton k) := by
  induction es generalizing covered with
  | nil => rfl
  | cons e es ih =>
    have start : (e.skeleton k).opening.start = e.opening.start + k := rfl
    have stop : (e.skeleton k).outer.stop = e.outer.stop + k :=
      congrArg Span.stop (e.outer_shift k)
    rw [List.map_cons, outermost, outermost, start, stop]
    simp only [Nat.add_lt_add_iff_right, ih]
    split <;> rfl

namespace Document

theorem roots_skeleton (k : Nat) (d : Document) :
    (d.skeleton k).roots = d.roots.map (Element.skeleton k) := by
  -- The pass starts at the head of the text in both, but nothing of the skeleton is before `k`.
  have late : ∀ e ∈ (d.descendants.filter (·.isPair .html)).map (Element.skeleton k),
      0 + k ≤ e.opening.start := by
    intro e found
    obtain ⟨e, -, rfl⟩ := List.mem_map.1 found
    show 0 + k ≤ e.opening.start + k
    omega
  rw [roots, roots, descendants_skeleton, filter_isPair_skeleton,
    outermost_congr (fun e _ => Nat.zero_le _) late, outermost_skeleton]

end Document

/-- The sections without the text that they hold, `k` bytes further on. -/
def Sections.skeleton (k : Nat) (sections : Sections) : Sections :=
  ⟨sections.head.skeleton k, sections.body.skeleton k⟩

theorem Sections.get_skeleton (k : Nat) (sections : Sections) (part : Section) :
    (sections.skeleton k).get part = (sections.get part).skeleton k := by
  cases part <;> rfl

section

variable (k : Nat) (s s' : Source) (d : Document)

theorem root_skeleton :
    (matchRoot s' (d.skeleton k)).1 = (matchRoot s d).1.map (Element.skeleton k) := by
  rw [matchRoot, matchRoot, d.roots_skeleton]
  cases d.roots <;> rfl

/-- A section is found in a skeleton just if it is found in the element. -/
theorem toOption_matchSection_skeleton (root : Element) (tag : Tag) :
    (matchSection s' (root.skeleton k) tag).toOption =
      (matchSection s root tag).toOption.map (Element.skeleton k) := by
  rw [matchSection, matchSection, root.descendants_skeleton, filter_isPair_skeleton]
  generalize root.descendants.filter (·.isPair tag) = found
  rcases found with _ | ⟨e, _ | ⟨e', found⟩⟩ <;> rfl

theorem matchSections_fst (root : Element) :
    (matchSections s root).1 = (matchSection s root .head).toOption.bind fun head =>
      (matchSection s root .body).toOption.map fun body => ⟨head, body⟩ := by
  rw [matchSections]
  cases matchSection s root .head <;> cases matchSection s root .body <;> rfl

theorem sections?_skeleton :
    sections? s' (d.skeleton k) = (sections? s d).map (Sections.skeleton k) := by
  rw [sections?, sections?, root_skeleton k s s' d]
  cases (matchRoot s d).1 with
  | none => rfl
  | some root =>
    simp only [Option.map_some, Option.bind_some, matchSections_fst,
      toOption_matchSection_skeleton k s s' root]
    cases (matchSection s root .head).toOption <;> cases (matchSection s root .body).toOption <;> rfl

end

/-! ## Contents -/

theorem strayWithin_skeleton (k : Nat) (d : Document) (span : Span) :
    (d.skeleton k).strayWithin (span.shift k) = (d.strayWithin span).map (Token.shift k) := by
  rw [Document.strayWithin, Document.strayWithin, Document.skeleton, List.filter_map]
  simp [Function.comp_def]

theorem offendingTags_skeleton (k : Nat) (d : Document) (e : Element) (c : Containment) :
    offendingTags (d.skeleton k) (e.skeleton k) c = (offendingTags d e c).map (Span.shift k) := by
  have opened : ((e.skeleton k).descendants.filter fun child =>
      !child.isSelfClosing && !c.permits child.tag.name).map (·.opening) =
      ((e.descendants.filter fun child =>
        !child.isSelfClosing && !c.permits child.tag.name).map (·.opening)).map (Span.shift k) := by
    rw [e.descendants_skeleton, List.filter_map, List.map_map, List.map_map]
    simp [Function.comp_def, Element.skeleton]
  have inside : (e.skeleton k).inner?.elim [] (d.skeleton k).strayWithin =
      (e.inner?.elim [] d.strayWithin).map (Token.shift k) := by
    rw [show (e.skeleton k).inner? = _ from e.inner?_shift k]
    cases e.inner? with
    | none => rfl
    | some inner => exact strayWithin_skeleton k d inner
  have stray : (((e.skeleton k).inner?.elim [] (d.skeleton k).strayWithin).filter fun token =>
      !c.permits token.name).map (·.span) =
      (((e.inner?.elim [] d.strayWithin).filter fun token =>
        !c.permits token.name).map (·.span)).map (Span.shift k) := by
    rw [inside, List.filter_map, List.map_map, List.map_map]
    simp [Function.comp_def]
  rw [offendingTags, offendingTags, opened, stray, ← List.map_append, List.map_mergeSort]
  simp

section

variable {k : Nat} {s s' : Source}

theorem checkContent_skeleton (lowers : Source.Lowers k s s') (d : Document) (e : Element) :
    checkContent s' (d.skeleton k) (e.skeleton k) = (checkContent s d e).map (Diagnostic.down k) := by
  rw [checkContent, checkContent, show (e.skeleton k).tag = e.tag from rfl]
  cases Rule.for? e.tag with
  | none => rfl
  | some rule =>
    dsimp only
    cases rule.containment with
    | only names =>
      simp only [offendingTags_skeleton, List.map_map]
      congr 1
      funext span
      exact lowers.report (.contents rule) span
    | textOnly => rfl
    | excludes names => rfl

/-! ## Nesting -/

namespace Nesting

/-- What was found, `k` bytes further on. -/
def Findings.shift (k : Nat) (found : Findings) : Findings :=
  { found with violations := found.violations.map fun (span, v) => (span.shift k, v) }

theorem namesBelow_skeleton (k : Nat) (e : Element) : namesBelow (e.skeleton k) = namesBelow e := by
  rw [namesBelow, e.descendants_skeleton, List.foldl_map]
  rfl

theorem violation?_skeleton (lowers : Source.Lowers k s s') (e : Element) (below : List String) :
    violation? s' (e.skeleton k) below = violation? s e below := by
  have inner : (e.skeleton k).inner?.any (s'.holds '<') = e.inner?.any (s.holds '<') := by
    rw [show (e.skeleton k).inner? = _ from e.inner?_shift k, Option.any_map]
    congr 1
    funext span
    exact lowers.holds span
  have paired : (e.skeleton k).isPaired = e.isPaired := e.isPaired_shift k
  rw [violation?, violation?, inner, paired]
  rfl

theorem judge_skeleton (lowers : Source.Lowers k s s') (found below : Findings) (e : Element) :
    (found.shift k).judge (below.shift k) s' (e.skeleton k) = (found.judge below s e).shift k := by
  have outer : (e.skeleton k).outer = e.outer.shift k := e.outer_shift k
  have names : (below.shift k).names = below.names := rfl
  rw [Findings.judge, violation?_skeleton lowers, outer, names, Findings.judge]
  cases violation? s e below.names <;> rfl

/-- A visit goes the same way through a skeleton. -/
theorem visit_skeleton (lowers : Source.Lowers k s s') (limit level : Nat) (found : Findings)
    (f : Forest) :
    visit s' limit level (found.shift k) (f.skeleton k) = (visit s limit level found f).shift k := by
  induction f generalizing level found with
  | nil => rfl
  | text span rest ih => exact ih level found
  | element tags children rest ihc ihr =>
    let e : Element := ⟨tags, children⟩
    have inside : below s' limit level (found.shift k) (e.skeleton k) =
        (below s limit level found e).shift k := by
      unfold below
      split
      · rw [namesBelow_skeleton]
        rfl
      · exact ihc (level + 1) { found with names := [] }
    rw [Forest.skeleton, visit_element, visit_element]
    show visit s' limit level ((found.shift k).judge (below s' limit level (found.shift k)
      (e.skeleton k)) s' (e.skeleton k)) (rest.skeleton k) = _
    rw [inside, judge_skeleton lowers, ihr]

end Nesting

theorem checkNesting_skeleton (lowers : Source.Lowers k s s') (limit : Nat) (e : Element) :
    (checkNesting s' limit (e.skeleton k)).diagnostics =
      (checkNesting s limit e).diagnostics.map (Diagnostic.down k) := by
  have visited : visitNesting s' limit (e.skeleton k) = (visitNesting s limit e).shift k :=
    Nesting.visit_skeleton lowers limit 1 {} e.children
  rw [checkNesting, checkNesting]
  dsimp only
  rw [visited, Nesting.Findings.diagnostics, Nesting.Findings.diagnostics, Nesting.Findings.shift]
  dsimp only
  rw [← List.map_reverse, ← List.map_mergeSort (r := fun a b => a.1.start ≤ b.1.start) (by simp),
    List.map_map, List.map_map]
  congr 1
  funext breach
  exact lowers.report breach.2 breach.1

end

/-! ## Checks -/

/-- A report that is read off the skeleton of a document, and so moves down with it. -/
def ReadsSkeleton (report : Source → Document → List Diagnostic) : Prop :=
  ∀ ⦃k s s'⦄, Source.Lowers k s s' → ∀ d,
    report s' (d.skeleton k) = (report s d).map (Diagnostic.down k)

/-- What is read off the skeleton of a section is read off that of the document. -/
theorem ReadsSkeleton.of_sections (check : Source → Document → Element → List Diagnostic)
    (reads : ∀ ⦃k s s'⦄, Source.Lowers k s s' → ∀ d e,
      check s' (d.skeleton k) (e.skeleton k) = (check s d e).map (Diagnostic.down k))
    (part : Section) :
    ReadsSkeleton fun s d =>
      (sections? s d).elim [] fun sections => check s d (sections.get part) := by
  intro k s s' lowers d
  dsimp only
  rw [sections?_skeleton k s s' d]
  cases sections? s d with
  | none => rfl
  | some sections =>
    simp only [Option.map_some, Option.elim_some, Sections.get_skeleton]
    exact reads lowers d (sections.get part)

/-- The text that comes in with the line feeds makes no difference to such a report. -/
theorem ReadsSkeleton.report_lowered {report : Source → Document → List Diagnostic}
    (reads : ReadsSkeleton report) (k : Nat) (text : List Char) :
    report (.ofText (lowered k text)) (parse (lowered k text)) =
      (report (.ofText text) (parse text)).map (Diagnostic.down k) := by
  have unmoved : ∀ ds : List Diagnostic, ds.map (Diagnostic.down 0) = ds := List.map_id
  -- Moved on by nothing, a skeleton has only lost its text.
  have bare := reads (Source.Lowers.refl (.ofText (lowered k text))) (parse (lowered k text))
  rw [unmoved] at bare
  rw [← bare, skeleton_parse_lowered, reads (Source.lowers_ofText k text)]

/-- The range given for a missing end moves down with the last line. -/
theorem missingEndRange_lowered (k : Nat) (text : List Char) :
    missingEndRange (.ofText (lowered k text)) = (missingEndRange (.ofText text)).down k := by
  simp only [missingEndRange, Source.lineLength, Source.lastLine_lowered, Source.lineText_lowered]
  rfl

/-- The range given for a wrong number of sections moves down if a tag is found for it. -/
theorem sectionCountRange_lowered (k : Nat) (text : List Char) (tag : Tag) :
    sectionCountRange (.ofText (lowered k text)) tag =
      if '<' :: tag.name.toList <:+: text then (sectionCountRange (.ofText text) tag).down k
      else sectionCountRange (.ofText text) tag := by
  rw [sectionCountRange, sectionCountRange, Source.text_ofText, Source.text_ofText,
    findWord?_lowered]
  cases found : findWord? ('<' :: tag.name.toList) text with
  | none =>
    rw [if_neg (findWord?_eq_none_iff.1 found)]
    rfl
  | some offset =>
    have there : '<' :: tag.name.toList <:+: text := by
      by_contra missing
      rw [findWord?_eq_none_iff.2 missing] at found
      cases found
    rw [if_pos there, Option.map_some]
    dsimp only
    rw [Source.position_lowered]
    rfl

namespace Check

/-- Whether what a check points at is found in the text, and so moves with it. -/
def moves (text : List Char) : Check → Bool
  | start => false
  | count part => decide ('<' :: part.tag.name.toList <:+: text)
  | _ => true

variable (limit : Nat)

theorem readsSkeleton_roots : ReadsSkeleton fun s d => roots.report s d limit := by
  intro k s s' lowers d
  dsimp only
  rw [report_roots, report_roots, d.roots_skeleton, ← List.map_tail, List.map_map, List.map_map]
  congr 1
  funext e
  exact lowers.report .extraRoot e.opening

theorem readsSkeleton_content (part : Section) :
    ReadsSkeleton fun s d => (content part).report s d limit := by
  apply ReadsSkeleton.of_sections checkContent
  intro k s s' lowers d e
  exact checkContent_skeleton lowers d e

theorem readsSkeleton_nesting (part : Section) :
    ReadsSkeleton fun s d => (nesting part).report s d limit := by
  apply ReadsSkeleton.of_sections fun s _ e => (checkNesting s limit e).diagnostics
  intro k s s' lowers d e
  exact checkNesting_skeleton lowers limit e

/-- There is a root that does not have the section once. -/
def lacks (s : Source) (d : Document) (part : Section) : Bool :=
  (matchRoot s d).1.any fun root => (matchSection s root part.tag).toOption.isNone

theorem lacks_skeleton (k : Nat) (s s' : Source) (d : Document) (part : Section) :
    lacks s' (d.skeleton k) part = lacks s d part := by
  rw [lacks, lacks, root_skeleton k s s' d, Option.any_map]
  congr 1
  funext root
  show (matchSection s' (root.skeleton k) part.tag).toOption.isNone = _
  rw [toOption_matchSection_skeleton k s s' root, Option.isNone_map]

theorem report_count (s : Source) (d : Document) (part : Section) :
    (count part).report s d limit =
      if lacks s d part then
        [(Violation.sectionCount part.tag).report (sectionCountRange s part.tag)]
      else [] := by
  rw [report, lacks]
  cases (matchRoot s d).1 with
  | none => rfl
  | some root =>
    rw [Option.elim_some, Option.any_some]
    unfold matchSection
    generalize root.descendants.filter (·.isPair part.tag) = found
    rcases found with _ | ⟨e, _ | ⟨e', found⟩⟩ <;> rfl

variable (k : Nat) (text : List Char)

theorem lacks_lowered (part : Section) :
    lacks (.ofText (lowered k text)) (parse (lowered k text)) part =
      lacks (.ofText text) (parse text) part := by
  rw [← lacks_skeleton 0 _ (.ofText (lowered k text)), skeleton_parse_lowered,
    lacks_skeleton k (.ofText text)]

/-- Each check reports what it did, further down if what it points at moves. -/
theorem report_lowered (c : Check) :
    c.report (.ofText (lowered k text)) (parse (lowered k text)) limit =
      (c.report (.ofText text) (parse text) limit).map fun d =>
        if c.moves text then d.down k else d := by
  cases c with
  | start =>
    rw [report, report, Source.text_ofText, Source.text_ofText, trimBoth_lowered]
    exact (List.map_id _).symm
  | stop =>
    rw [report, report, Source.text_ofText, Source.text_ofText, trimBoth_lowered,
      missingEndRange_lowered]
    cases rootEnd.isSuffixOf (trimBoth isMargin text) <;> rfl
  | roots => exact (readsSkeleton_roots limit).report_lowered k text
  | count part =>
    rw [report_count, report_count, lacks_lowered, sectionCountRange_lowered]
    by_cases found : '<' :: part.tag.name.toList <:+: text
    · rw [if_pos found, moves, decide_eq_true found]
      split <;> rfl
    · rw [if_neg found, moves, decide_eq_false found]
      split <;> rfl
  | content part => exact (readsSkeleton_content limit part).report_lowered k text
  | nesting part => exact (readsSkeleton_nesting limit part).report_lowered k text

end Check

/-! ## Passes -/

/-- The diagnostic has a place of its own: it is about a missing start, or about the number of a
section that no tag is found for. -/
def Diagnostic.IsFixed (text : List Char) (d : Diagnostic) : Prop :=
  d.message = Violation.missingStart.message ∨
  ∃ part ∈ [Section.head, Section.body],
    d.message = (Violation.sectionCount part.tag).message ∧
      ¬ '<' :: part.tag.name.toList <:+: text

instance (text : List Char) (d : Diagnostic) : Decidable (d.IsFixed text) :=
  instDecidableOr

/-- Words that are not about nesting tell the check. -/
theorem Check.Entry.eq_of_message_eq {text : List Char} {c c' : Check} {d : Diagnostic}
    (entry : Entry text c d) {v : Violation} (right : v ∈ c'.violations)
    (same : d.message = v.message) (plain : c'.isNesting = false) : c = c' := by
  rcases entry.eq_or_isNesting right same with eq | ⟨-, nesting⟩
  · exact eq
  · rw [plain] at nesting
    cases nesting

/-- A diagnostic is fixed just if what its check points at does not move. -/
theorem Check.isFixed_iff {limit : Nat} {text : List Char} {c : Check} {d : Diagnostic}
    (among : d ∈ c.report (.ofText text) (parse text) limit) :
    d.IsFixed text ↔ c.moves text = false := by
  have entry := entry_of_mem_report among
  constructor
  · rintro (start | ⟨part, -, count, missing⟩)
    · have own : Violation.missingStart ∈ Check.start.violations := List.mem_cons_self
      cases entry.eq_of_message_eq own start rfl
      rfl
    · have own : Violation.sectionCount part.tag ∈ (Check.count part).violations :=
        List.mem_cons_self
      cases entry.eq_of_message_eq own count rfl
      exact decide_eq_false missing
  · intro fixed
    cases entry with
    | start => exact Or.inl rfl
    | count part => exact Or.inr ⟨part, by cases part <;> simp, rfl, of_decide_eq_false fixed⟩
    | stop | root | tag | element => cases fixed

/-- A place of its own is on the first line. -/
theorem Check.line_of_isFixed {limit : Nat} {text : List Char} {c : Check} {d : Diagnostic}
    (among : d ∈ c.report (.ofText text) (parse text) limit) (fixed : d.IsFixed text) :
    d.range.start.line = 0 ∧ d.range.stop.line = 0 := by
  have still := (isFixed_iff among).1 fixed
  cases entry_of_mem_report among with
  | start => exact ⟨rfl, rfl⟩
  | count part =>
    have missing := findWord?_eq_none_iff.2 (of_decide_eq_false still)
    simp [Violation.report, sectionCountRange, missing]
  | stop | root | tag | element => cases still

/-- **Reports move with the text.** Whatever the limit, line feeds before a text change nothing about
its diagnostics but their lines: each is that many lines further down, unless it has a place of its
own, which is on the first line. -/
theorem diagnostics_lowered (limit k : Nat) (text : List Char) :
    (validate limit (List.replicate k '\n' ++ text)).diagnostics =
      ((validate limit text).diagnostics.map fun d => if d.IsFixed text then d else d.down k) ∧
    ∀ d ∈ (validate limit text).diagnostics, d.IsFixed text →
      d.range.start.line = 0 ∧ d.range.stop.line = 0 := by
  show (validate limit (lowered k text)).diagnostics = _ ∧ _
  simp only [Check.diagnostics_eq_flatMap]
  constructor
  · rw [List.map_flatMap]
    congr 1
    funext c
    rw [Check.report_lowered]
    refine List.map_congr_left fun d among => ?_
    have fixed := Check.isFixed_iff among
    cases moves : c.moves text <;> simp [fixed, moves]
  · intro d found
    obtain ⟨c, -, among⟩ := List.mem_flatMap.1 found
    exact Check.line_of_isFixed among

end Mhtml
