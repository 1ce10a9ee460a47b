import Mhtml.Editor.Outline
import Mhtml.Proofs.Source.Search
import Mhtml.Proofs.Grammar.ReportOrder

/-!
# Strict passes

A pass cuts texts, looks up lines and takes one from numbers, and each of these has
something to fall back on where it cannot be done. A strict pass has nothing to fall
back on: it searches for positions, and gives nothing at all as soon as a cut, a
look-up or a subtraction fails. `pass_never_falls_back` says that for no text does a
strict pass fail, and that it says what a pass says; before that, that every span a
pass gets to see can be cut out of the text.
-/

namespace Mhtml

namespace Strict

/-- The report of a violation at a span. -/
def report (s : Source) (v : Violation) (span : Span) : Option Diagnostic :=
  (s.searchRange? span).map v.report

/-- The range given for a missing end: the tail of the last line. -/
def missingEndRange (s : Source) : Option Range := do
  let last ← s.lines.size.ppred
  let length := unitLength (← s.readLine? last)
  return ⟨⟨last, length - rootEnd.length⟩, ⟨last, length⟩⟩

/-- Checks how the document starts and ends. -/
def checkBounds (s : Source) : Option (List Diagnostic) := do
  let trimmed := trimBoth isMargin s.text
  let start :=
    if rootStart.isPrefixOf trimmed then [] else [Violation.missingStart.report missingStartRange]
  let stop ←
    if rootEnd.isSuffixOf trimmed then some []
    else (missingEndRange s).map fun range => [Violation.missingEnd.report range]
  return start ++ stop

/-- The root element if there is one, and a report of each further one. -/
def matchRoot (s : Source) (d : Document) : Option (Option Element × List Diagnostic) :=
  match d.roots with
  | [] => some (none, [])
  | root :: extra => do
    return (some root, ← extra.mapM fun e => report s .extraRoot e.opening)

/-- The range given for a wrong number of sections. -/
def sectionCountRange (s : Source) (tag : Tag) : Option Range := do
  let line ←
    match findWord? ('<' :: tag.name.toList) s.text with
    | some offset => (s.search? offset).map Position.line
    | none => some 0
  return ⟨⟨line, 0⟩, ⟨line, sectionCountWidth⟩⟩

/-- The only paired element called `tag` below the root, or else a report. -/
def matchSection (s : Source) (root : Element) (tag : Tag) : Option (Except Diagnostic Element) :=
  match root.descendants.filter (·.isPair tag) with
  | [e] => some (.ok e)
  | _ => do return .error ((Violation.sectionCount tag).report (← sectionCountRange s tag))

/-- Both sections of the root, or else a report of each that is missing or repeated. -/
def matchSections (s : Source) (root : Element) : Option (Option Sections × List Diagnostic) := do
  return match ← matchSection s root .head, ← matchSection s root .body with
  | .ok head, .ok body => (some ⟨head, body⟩, [])
  | .ok _, .error d => (none, [d])
  | .error d, .ok _ => (none, [d])
  | .error d, .error d' => (none, [d, d'])

/-- Reports the tags inside `e` that a rule of permitted names does not permit. -/
def checkContent (s : Source) (d : Document) (e : Element) : Option (List Diagnostic) :=
  match Rule.for? e.tag with
  | some rule =>
    match rule.containment with
    | .only _ => (offendingTags d e rule.containment).mapM (report s (.contents rule))
    | _ => some []
  | none => some []

/-- The rule that `e` breaks, if it breaks one, given the excluded names that stand below it. -/
def violation (s : Source) (e : Element) (below : List String) : Option (Option Violation) :=
  match Rule.for? e.tag with
  | none => some none
  | some rule => do
    let broken ← match rule.containment with
      | .textOnly =>
        match e.inner? with
        | none => some false
        | some inner => (s.slice? inner).map (·.contains '<')
      | .excludes names => some (e.isPaired && names.any below.contains)
      | .only _ => some false
    return if broken then some (.contents rule) else none

/-- Adds what there is to find about `e`, given what was found below it. -/
def judge (s : Source) (found below : Nesting.Findings) (e : Element) :
    Option Nesting.Findings := do
  let broken ← violation s e below.names
  return {
    names := Nesting.note (below.names.foldl Nesting.note found.names) e.tag.name
    violations :=
      match broken with
      | some v => (e.outer, v) :: below.violations
      | none => below.violations
    truncated := below.truncated }

/-- Visits a run of nodes at `level` and all below it down to `limit`. -/
def visit (s : Source) (limit level : Nat) (found : Nesting.Findings) :
    Forest → Option Nesting.Findings
  | .nil => some found
  | .text _ rest => visit s limit level found rest
  | .element tags children rest => do
    let e : Element := ⟨tags, children⟩
    let below ←
      if limit ≤ level then
        some { found with names := Nesting.namesBelow e, truncated := true }
      else visit s limit (level + 1) { found with names := [] } children
    visit s limit level (← judge s found below e) rest

/-- The reports of what was found, in source order. -/
def diagnostics (s : Source) (found : Nesting.Findings) : Option (List Diagnostic) :=
  (found.violations.reverse.mergeSort (·.1.start ≤ ·.1.start)).mapM fun (span, v) => report s v span

/-- Reports the elements below `e` that break their nesting rule, and records whether some were
left out. -/
def checkNesting (s : Source) (limit : Nat) (e : Element) : Option Pass := do
  let found ← visit s limit 1 {} e.children
  return ⟨← diagnostics s found, found.records limit⟩

/-- Checks what the two sections hold. -/
def checkSections (s : Source) (d : Document) (limit : Nat) (sections : Sections) : Option Pass := do
  let content := (← checkContent s d sections.head) ++ (← checkContent s d sections.body)
  let head ← checkNesting s limit sections.head
  let body ← checkNesting s limit sections.body
  return { diagnostics := content } ++ head ++ body

/-- Checks the root and everything inside it. -/
def checkRoot (s : Source) (d : Document) (limit : Nat) : Option Pass := do
  match ← matchRoot s d with
  | (none, _) => return { records := [.noRoot] }
  | (some root, extra) =>
    match ← matchSections s root with
    | (none, missing) => return { diagnostics := extra ++ missing }
    | (some sections, _) => return { diagnostics := extra } ++ (← checkSections s d limit sections)

/-- Checks a text against the grammar, nesting down to `limit`. -/
def validate (limit : Nat) (text : List Char) : Option Pass := do
  let s := Source.ofText text
  let d := parse text
  let bounds ← checkBounds s
  return ⟨bounds, d.records⟩ ++ (← checkRoot s d limit)

/-- Where something is done to each member of a list and never fails, it is done to the list. -/
theorem mapM_eq_some_map {α β : Type} {f? : α → Option β} {f : α → β} {xs : List α}
    (every : ∀ x ∈ xs, f? x = some (f x)) : xs.mapM f? = some (xs.map f) := by
  induction xs with
  | nil => rfl
  | cons x xs ih =>
    have later := ih fun y among => every y (List.mem_cons_of_mem x among)
    rw [List.mapM_cons, every x List.mem_cons_self, later]
    rfl

/-! ## The ends and the structure -/

theorem missingEndRange_eq (s : Source) : missingEndRange s = some (Mhtml.missingEndRange s) := by
  have lines : s.lines.size = s.lastLine + 1 := by
    obtain ⟨line, first⟩ := Source.exists_line_iff.2 (Nat.zero_le s.lastLine)
    have := (Array.getElem?_eq_some_iff.1 first).1
    rw [Source.lastLine]
    omega
  simp only [missingEndRange, lines, Nat.ppred, s.readLine?_eq, Option.bind_eq_bind,
    Option.bind_some, Option.pure_def, Mhtml.missingEndRange, Source.lineLength]

theorem checkBounds_eq (s : Source) : checkBounds s = some (Mhtml.checkBounds s) := by
  rw [checkBounds, Mhtml.checkBounds, missingEndRange_eq]
  by_cases ends : rootEnd.isSuffixOf (trimBoth isMargin s.text) = true
  · simp only [if_pos ends]
    rfl
  · simp only [if_neg ends]
    rfl

theorem sectionCountRange_eq (s : Source) (tag : Tag) :
    sectionCountRange s tag = some (Mhtml.sectionCountRange s tag) := by
  rw [sectionCountRange, Mhtml.sectionCountRange]
  cases found : findWord? ('<' :: tag.name.toList) s.text with
  | none => rfl
  | some o =>
    have edge : IsEdge ([] ++ s.text) o := isEdge_of_findWordFrom? found
    dsimp only
    rw [Source.search?_eq edge]
    rfl

theorem matchSection_eq (s : Source) (root : Element) (tag : Tag) :
    matchSection s root tag = some (Mhtml.matchSection s root tag) := by
  rw [matchSection, Mhtml.matchSection, sectionCountRange_eq]
  generalize root.descendants.filter (·.isPair tag) = pairs
  rcases pairs with _ | ⟨first, _ | ⟨second, more⟩⟩ <;> rfl

theorem matchSections_eq (s : Source) (root : Element) :
    matchSections s root = some (Mhtml.matchSections s root) := by
  rw [matchSections, matchSection_eq, matchSection_eq, Mhtml.matchSections]
  cases Mhtml.matchSection s root .head <;> cases Mhtml.matchSection s root .body <;> rfl

variable {text : List Char} {e : Element}

/-- A span that is framed by brackets can be reported. -/
theorem report_eq {span : Span} (framed : IsFramed text span) (v : Violation) :
    report (.ofText text) v span = some (v.report ((Source.ofText text).range span)) := by
  rw [report, Source.searchRange?_eq framed.opens.isEdge.1 framed.closes.isEdge.2, Option.map_some]

theorem matchRoot_eq (text : List Char) :
    matchRoot (.ofText text) (parse text) = some (Mhtml.matchRoot (.ofText text) (parse text)) := by
  rw [matchRoot, Mhtml.matchRoot]
  cases roots : (parse text).roots with
  | nil => rfl
  | cons root extra =>
    have reported : ∀ e ∈ extra, report (.ofText text) .extraRoot e.opening =
        some (Violation.extraRoot.report ((Source.ofText text).range e.opening)) := by
      intro e among
      have there : e ∈ (parse text).roots := by
        rw [roots]
        exact List.mem_cons_of_mem root among
      exact report_eq (isFramed_opening (of_mem_roots there).1) _
    dsimp only
    rw [mapM_eq_some_map reported]
    rfl

/-! ## The sections -/

theorem checkContent_eq (found : e ∈ (parse text).nodes.preorder) :
    checkContent (.ofText text) (parse text) e =
      some (Mhtml.checkContent (.ofText text) (parse text) e) := by
  rw [checkContent, Mhtml.checkContent]
  cases Rule.for? e.tag with
  | none => rfl
  | some rule =>
    dsimp only
    cases rule.containment with
    | textOnly | excludes names => rfl
    | only names =>
      apply mapM_eq_some_map
      intro span offends
      rw [offendingTags_eq found] at offends
      obtain ⟨t, among, rfl⟩ := List.mem_map.1 offends
      exact report_eq (Token.isFramed (Element.mem_offenders_iff.1 among).1) _

theorem violation_eq (found : e ∈ (parse text).nodes.preorder) (below : List String) :
    violation (.ofText text) e below = some (Nesting.violation? (.ofText text) e below) := by
  rw [violation, Nesting.violation?]
  cases Rule.for? e.tag with
  | none => rfl
  | some rule =>
    dsimp only
    cases rule.containment with
    | excludes names | only names => rfl
    | textOnly =>
      cases paired : e.isPaired with
      | false =>
        have none : e.inner? = none := by
          rw [ElementTags.inner?, ElementTags.isPaired_eq_false_iff.1 paired, Option.map_none]
        rw [none]
        rfl
      | true =>
        obtain ⟨inner, piece, between, there⟩ := exists_innerText found paired
        have cut := Source.slice?_of_textAt (s := .ofText text) there
        simp only [between, cut, Option.any_some, Source.holds_eq]
        rfl

theorem judge_eq (found : e ∈ (parse text).nodes.preorder) (before below : Nesting.Findings) :
    judge (.ofText text) before below e = some (before.judge below (.ofText text) e) := by
  rw [judge, violation_eq found]
  rfl

theorem visit_eq {f : Forest} (all : ∀ e ∈ f.preorder, e ∈ (parse text).nodes.preorder)
    (limit level : Nat) (before : Nesting.Findings) :
    visit (.ofText text) limit level before f =
      some (Nesting.visit (.ofText text) limit level before f) := by
  induction f generalizing level before with
  | nil => rfl
  | text span rest ih => exact ih all level before
  | element tags children rest ihc ihr =>
    have own := all ⟨tags, children⟩ List.mem_cons_self
    have inside := ihc fun e among => all e (List.mem_cons_of_mem _ (List.mem_append_left _ among))
    have after := ihr fun e among => all e (List.mem_cons_of_mem _ (List.mem_append_right _ among))
    rw [visit, Nesting.visit_element, Nesting.below]
    by_cases deep : limit ≤ level
    · simp only [if_pos deep, Option.bind_eq_bind, Option.bind_some, judge_eq own, after]
    · simp only [if_neg deep, inside, Option.bind_eq_bind, Option.bind_some, judge_eq own, after]

/-- What a visit finds below an element is framed by brackets. -/
theorem isFramed_of_mem_violations (found : e ∈ (parse text).nodes.preorder) {limit : Nat}
    {breach : Span × Violation}
    (among : breach ∈ (Nesting.visit (.ofText text) limit 1 {} e.children).violations) :
    IsFramed text breach.1 := by
  have broken := (Nesting.perm_violations_visit (.ofText text) limit {} [] e.children).mem_iff.1 among
  rw [List.append_nil] at broken
  obtain ⟨p, placed, broken⟩ := List.mem_filterMap.1 broken
  obtain ⟨-, v, -, rfl⟩ := Nesting.breach?_eq_some_iff.1 broken
  have below := Forest.mem_preorder_of_mem_placed placed
  exact isFramed_outer (Forest.mem_preorder_of_mem_children found below)

theorem checkNesting_eq (found : e ∈ (parse text).nodes.preorder) (limit : Nat) :
    checkNesting (.ofText text) limit e = some (Mhtml.checkNesting (.ofText text) limit e) := by
  have visited := visit_eq (fun d => Forest.mem_preorder_of_mem_children found) limit 1 {}
  have reported : diagnostics (.ofText text) (visitNesting (.ofText text) limit e) =
      some ((visitNesting (.ofText text) limit e).diagnostics (.ofText text)) := by
    apply mapM_eq_some_map
    intro breach among
    have own := List.mem_reverse.1 (List.mem_mergeSort.1 among)
    exact report_eq (isFramed_of_mem_violations found own) breach.2
  rw [visitNesting] at reported
  rw [checkNesting, visited, Option.bind_eq_bind, Option.bind_some, reported]
  rfl

theorem checkSections_eq {sections : Sections}
    (found : sections? (.ofText text) (parse text) = some sections) (limit : Nat) :
    checkSections (.ofText text) (parse text) limit sections =
      some (Mhtml.checkSections (.ofText text) (parse text) limit sections) := by
  have head : sections.head ∈ (parse text).nodes.preorder := (of_sections? found .head).1
  have body : sections.body ∈ (parse text).nodes.preorder := (of_sections? found .body).1
  rw [checkSections, checkContent_eq head, checkContent_eq body, checkNesting_eq head,
    checkNesting_eq body]
  rfl

theorem checkRoot_eq (text : List Char) (limit : Nat) :
    checkRoot (.ofText text) (parse text) limit =
      some (Mhtml.checkRoot (.ofText text) (parse text) limit) := by
  rw [checkRoot, Mhtml.checkRoot, matchRoot_eq]
  cases first : Mhtml.matchRoot (.ofText text) (parse text) with
  | mk root? extra =>
    cases root? with
    | none => rfl
    | some root =>
      rw [Option.bind_eq_bind, Option.bind_some]
      dsimp only
      rw [matchSections_eq]
      cases second : Mhtml.matchSections (.ofText text) root with
      | mk sections? missing =>
        cases sections? with
        | none => rfl
        | some sections =>
          have found : Mhtml.sections? (.ofText text) (parse text) = some sections := by
            rw [Mhtml.sections?, first, Option.bind_some, second]
          rw [Option.bind_eq_bind, Option.bind_some]
          dsimp only
          rw [checkSections_eq found]
          rfl

/-- A strict pass never fails. -/
theorem validate_eq (limit : Nat) (text : List Char) :
    validate limit text = some (Mhtml.validate limit text) := by
  rw [validate, checkBounds_eq, checkRoot_eq]
  rfl

end Strict

/-! ## Spans of a text -/

/-- Both ends of the span are edges of the text, and something stands between them. -/
structure Span.IsIn (text : List Char) (span : Span) : Prop where
  some : span.start < span.stop
  within : span.stop ≤ byteSize text
  first : IsEdge text span.start
  last : IsEdge text span.stop

theorem IsEdge.le_byteSize {text : List Char} {o : Nat} (edge : IsEdge text o) :
    o ≤ byteSize text := by
  obtain ⟨before, after, rfl, rfl⟩ := edge
  rw [byteSize_append]
  exact Nat.le_add_right _ _

theorem TextAt.start_le_stop {text piece : List Char} {span : Span} (there : TextAt text span piece) :
    span.start ≤ span.stop := by
  obtain ⟨before, after, -, start, stop⟩ := there
  omega

theorem IsFramed.isIn {text : List Char} {span : Span} (framed : IsFramed text span) :
    span.IsIn text where
  some := framed.some
  within := framed.closes.isEdge.2.le_byteSize
  first := framed.opens.isEdge.1
  last := framed.closes.isEdge.2

namespace Piece

theorem eq_of_mem_between {start stop : Nat} {p : Piece} (among : p ∈ between start stop) :
    p = text ⟨start, stop⟩ := by
  unfold between at among
  split at among
  · exact List.mem_singleton.1 among
  · cases among

/-- Tags that start and stop at edges cut a text at edges. -/
theorem isEdge_of_mem_cut {whole : List Char} {start stop : Nat} {ts : List Token}
    (first : IsEdge whole start) (last : IsEdge whole stop)
    (tags : ∀ t ∈ ts, IsEdge whole t.span.start ∧ IsEdge whole t.span.stop) {p : Piece}
    (among : p ∈ cut start stop ts) : IsEdge whole p.span.start ∧ IsEdge whole p.span.stop := by
  induction ts generalizing start with
  | nil =>
    rw [eq_of_mem_between among]
    exact ⟨first, last⟩
  | cons t ts ih =>
    obtain ⟨own, others⟩ := List.forall_mem_cons.1 tags
    rcases List.mem_append.1 among with before | among
    · rw [eq_of_mem_between before]
      exact ⟨first, own.1⟩
    · rcases List.mem_cons.1 among with rfl | after
      · exact own
      · exact ih own.2 others after

/-- The pieces of a document stand at spans of its text. -/
theorem isIn {whole : List Char} {p : Piece} (among : p ∈ (parse whole).pieces) :
    p.span.IsIn whole := by
  have cut := (parse_holds whole).perm.mem_iff.1 among
  obtain ⟨-, some, within⟩ := (tiles_cut (Token.inOrder_tokenize whole)).bounds.2 p.span
    (List.mem_map_of_mem cut)
  have edges := isEdge_of_mem_cut ⟨[], whole, rfl, rfl⟩ ⟨whole, [], by simp, rfl⟩
    (fun t => Token.isEdge_of_mem_tokenize) cut
  exact ⟨some, within, edges.1, edges.2⟩

end Piece

/-! ## Nothing fails -/

/-- The spans that a pass over a text comes by: of its tags, of the pieces of the document, and of
whole elements. -/
def passSpans (text : List Char) : List Span :=
  (tokenize text).map Token.span ++ (parse text).pieces.map Piece.span ++
    (parse text).descendants.map (·.outer)

theorem isIn_of_mem_passSpans {text : List Char} {span : Span} (among : span ∈ passSpans text) :
    span.IsIn text := by
  rcases List.mem_append.1 among with among | element
  · rcases List.mem_append.1 among with tag | piece
    · obtain ⟨t, found, rfl⟩ := List.mem_map.1 tag
      exact (Token.isFramed found).isIn
    · obtain ⟨p, found, rfl⟩ := List.mem_map.1 piece
      exact Piece.isIn found
  · obtain ⟨e, found, rfl⟩ := List.mem_map.1 element
    rw [Document.descendants_eq] at found
    exact (isFramed_outer found).isIn

/-- Nothing that a pass over the text does can fail. -/
structure Unfailing (text : List Char) : Prop where
  /-- What stands at a span can be cut out, and no step of the search for the positions of its two
  ends fails. -/
  spans : ∀ span ∈ passSpans text, span.IsIn text ∧
    (∃ piece, TextAt text span piece ∧ (Source.ofText text).slice? span = some piece) ∧
    (Source.ofText text).searchRange? span = some ((Source.ofText text).range span)
  /-- The tags of a pair stand in order, and the text between them can be cut out. -/
  inner : ∀ e ∈ (parse text).descendants, ∀ closing ∈ e.closing?,
    e.opening.stop ≤ closing.start ∧ ∃ piece,
      TextAt text ⟨e.opening.stop, closing.start⟩ piece ∧
      e.innerText? (.ofText text) = some piece
  /-- A line stops where it starts or later, at an edge of the text as it starts at one. -/
  lines : ∀ n line, (Source.ofText text).lines[n]? = some line →
    ∃ stop, (Source.ofText text).lineSpan? n line = some ⟨line.start, stop⟩ ∧ line.start ≤ stop ∧
      stop ≤ byteSize text ∧ IsEdge text line.start ∧ IsEdge text stop
  /-- The text of a line can be cut out, whatever the number of the line. -/
  lineTexts : ∀ n, (Source.ofText text).readLine? n = some ((Source.ofText text).lineText n)
  /-- Whatever the offset, there is a line before the first one after it, and the table of what is
  left of the text has an entry. -/
  lookups : ∀ o, (∃ n line, ((Source.ofText text).firstLineAfter (min o (byteSize text))).ppred = some n ∧
      (Source.ofText text).lines[n]? = some line ∧ line.start ≤ min o (byteSize text)) ∧
    ∃ entry, (Source.ofText text).rests[min o (byteSize text)]? = some entry
  /-- A strict pass says what a pass says. -/
  passes : ∀ limit, Strict.validate limit text = some (validate limit text)

/-- **A pass never falls back.** For every text, all the spans that a pass comes by can be cut out of
the text and located in it, the text between the tags of a pair is there, every line can be cut out,
and every look-up finds something. A pass that would fail if anything of this failed never does, and
says what a pass says. -/
theorem pass_never_falls_back (text : List Char) : Unfailing text where
  spans := by
    intro span among
    have there := isIn_of_mem_passSpans among
    obtain ⟨piece, own⟩ := there.first.exists_textAt there.last (Nat.le_of_lt there.some)
    exact ⟨there, ⟨piece, own, Source.slice?_of_textAt own⟩,
      Source.searchRange?_eq there.first there.last⟩
  inner := by
    intro e found closing closed
    rw [Document.descendants_eq] at found
    obtain ⟨inner, piece, between, there⟩ :=
      exists_innerText found (ElementTags.isPaired_iff.2 ⟨closing, closed⟩)
    refine ⟨Forest.opening_le_closing (spaced_parse text) found closed, piece, ?_, ?_⟩
    · rw [ElementTags.inner?_eq_some closed] at between
      cases between
      exact there
    · rw [Element.innerText?, between, Option.bind_some]
      exact Source.slice?_of_textAt there
  lines := by
    intro n line found
    obtain ⟨⟨start, stop⟩, known, rfl, there⟩ := Source.lineSpan?_eq found
    obtain ⟨first, last⟩ := there.isEdge
    exact ⟨stop, known, there.start_le_stop, last.le_byteSize, first, last⟩
  lineTexts := (Source.ofText text).readLine?_eq
  lookups := by
    intro o
    refine ⟨Source.exists_line_before _ _, ?_⟩
    have count : (Source.ofText text).rests.size = byteSize text + 1 := by
      rw [← Array.length_toList, Source.rests_eq, length_restsOf]
      rfl
    exact ⟨_, Array.getElem?_eq_getElem (by omega)⟩
  passes := fun limit => Strict.validate_eq limit text

end Mhtml
