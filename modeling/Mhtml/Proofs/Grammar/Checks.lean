import Mhtml.Proofs.Grammar.Acceptance

/-!
# The checks of a pass

A pass makes nine checks, and each has a place in the report: the two ends of the
text, further roots, the number of heads and of bodies, then what the two sections
hold and how it nests. `Check.report` gives what one check has to say, and
`diagnostics_eq_flatMap` says that a pass is the checks in that order. Without a
root only the ends are reported, and what is inside the sections only if both are
there. No two checks use the same words, except that nesting is told in the same
ones for both sections. `Check.Entry` says what the entries of each check can be,
so that what holds of all entries is told case by case.
-/

namespace Mhtml

/-- One of the two sections. -/
inductive Section where
  | head
  | body
deriving DecidableEq, Repr

/-- The name of a section. -/
def Section.tag : Section → Tag
  | head => .head
  | body => .body

/-- The element that is the section. -/
def Sections.get (sections : Sections) : Section → Element
  | .head => sections.head
  | .body => sections.body

/-- The sections of a document, if there is a root that has each of them once. -/
def sections? (s : Source) (d : Document) : Option Sections :=
  (matchRoot s d).1.bind fun root => (matchSections s root).1

/-- A check of a pass. -/
inductive Check where
  /-- How the text starts. -/
  | start
  /-- How the text ends. -/
  | stop
  /-- Whether there are further roots. -/
  | roots
  /-- Whether the root has the section once. -/
  | count (part : Section)
  /-- What the section holds. -/
  | content (part : Section)
  /-- How the elements in the section nest. -/
  | nesting (part : Section)
deriving DecidableEq, Repr

namespace Check

/-- The checks in the order of their reports. -/
def all : List Check :=
  [start, stop, roots, count .head, count .body, content .head, content .body, nesting .head,
    nesting .body]

theorem mem_all (c : Check) : c ∈ all := by
  cases c with
  | start | stop | roots => simp [all]
  | count part | content part | nesting part => cases part <;> simp [all]

/-- What a check reports about a document. -/
def report (s : Source) (d : Document) (limit : Nat) : Check → List Diagnostic
  | start =>
    if rootStart.isPrefixOf (trimBoth isMargin s.text) then []
    else [Violation.missingStart.report missingStartRange]
  | stop =>
    if rootEnd.isSuffixOf (trimBoth isMargin s.text) then []
    else [Violation.missingEnd.report (missingEndRange s)]
  | roots => (matchRoot s d).2
  | count part =>
    (matchRoot s d).1.elim [] fun root =>
      match matchSection s root part.tag with
      | .ok _ => []
      | .error missing => [missing]
  | content part => (sections? s d).elim [] fun sections => checkContent s d (sections.get part)
  | nesting part =>
    (sections? s d).elim [] fun sections => (checkNesting s limit (sections.get part)).diagnostics

variable {s : Source} {d : Document} {limit : Nat}

/-- Without a root there is nothing to report but the ends. -/
theorem report_of_no_root (none : (matchRoot s d).1 = none) {c : Check} (notStart : c ≠ start)
    (notStop : c ≠ stop) : c.report s d limit = [] := by
  have sections : sections? s d = Option.none := by rw [sections?, none, Option.bind_none]
  cases c with
  | start => exact absurd rfl notStart
  | stop => exact absurd rfl notStop
  | roots =>
    rw [report]
    unfold matchRoot at none ⊢
    split at none
    · rfl
    · cases none
  | count part => rw [report, none, Option.elim_none]
  | content part => rw [report, sections, Option.elim_none]
  | nesting part => rw [report, sections, Option.elim_none]

/-- If a section is reported missing, nothing inside the sections is reported. -/
theorem sections?_eq_none_of_count {part : Section} (missing : (count part).report s d limit ≠ []) :
    sections? s d = none := by
  rw [report] at missing
  cases found : (matchRoot s d).1 with
  | none => rw [sections?, found, Option.bind_none]
  | some root =>
    rw [sections?, found, Option.bind_some]
    rw [found, Option.elim_some] at missing
    unfold matchSections
    cases part with
    | head =>
      cases head : matchSection s root .head with
      | ok e => simp [Section.tag, head] at missing
      | error m => cases matchSection s root .body <;> rfl
    | body =>
      cases body : matchSection s root .body with
      | ok e => simp [Section.tag, body] at missing
      | error m => cases matchSection s root .head <;> rfl

/-- The ends are reported once at most, and so is the number of a section. -/
theorem length_report_le_one {c : Check} (single : c = start ∨ c = stop ∨ ∃ part, c = count part) :
    (c.report s d limit).length ≤ 1 := by
  rcases single with rfl | rfl | ⟨part, rfl⟩
  · rw [report]
    split <;> simp
  · rw [report]
    split <;> simp
  · rw [report]
    cases (matchRoot s d).1 with
    | none => simp
    | some root =>
      rw [Option.elim_some]
      cases matchSection s root part.tag <;> simp

/-- The checks after the first two, in order. -/
theorem diagnostics_checkRoot (s : Source) (d : Document) (limit : Nat) :
    (checkRoot s d limit).diagnostics =
      [roots, count .head, count .body, content .head, content .body, nesting .head,
        nesting .body].flatMap (report s d limit) := by
  cases found : matchRoot s d with
  | mk root? extra =>
    cases root? with
    | none =>
      have none : (matchRoot s d).1 = Option.none := by rw [found]
      have nothing : ∀ c : Check, c ≠ start → c ≠ stop → c.report s d limit = [] :=
        fun c => report_of_no_root none
      rw [checkRoot, found]
      simp [nothing]
    | some root =>
      rw [checkRoot, found]
      cases head : matchSection s root .head <;> cases body : matchSection s root .body <;>
        simp [matchSections, head, body, report, sections?, found, Section.tag, Sections.get,
          checkSections]

/-- A pass reports what its checks do, one after the other. -/
theorem diagnostics_eq_flatMap (limit : Nat) (text : List Char) :
    (validate limit text).diagnostics = all.flatMap (report (.ofText text) (parse text) limit) := by
  rw [validate, checkDocument, Pass.diagnostics_append, diagnostics_checkRoot, checkBounds,
    List.append_assoc]
  rfl

end Check

/-! ## Where the checks look -/

section Parsed

variable {text : List Char} {s : Source} {limit : Nat} {sections : Sections}

/-- Further roots are all roots but the first. -/
theorem report_roots (s : Source) (d : Document) (limit : Nat) :
    Check.roots.report s d limit =
      d.roots.tail.map fun e => Violation.extraRoot.report (s.range e.opening) := by
  rw [Check.report, matchRoot_eq]

/-- A section is a pair of its name in the document. -/
theorem of_sections? (found : sections? s (parse text) = some sections) (part : Section) :
    sections.get part ∈ (parse text).nodes.preorder ∧ (sections.get part).tag = part.tag ∧
      (sections.get part).isPaired = true := by
  obtain ⟨root, first, both⟩ := Option.bind_eq_some_iff.1 found
  have among : root ∈ (parse text).roots := by
    unfold matchRoot at first
    split at first
    · cases first
    next roots =>
      cases first
      rw [roots]
      exact List.mem_cons_self
  have there := (of_mem_roots among).1
  rcases matchSections_cases s root with ⟨head, body, onlyHead, onlyBody, same⟩ | ⟨-, _, _, same⟩
  · rw [same] at both
    cases both
    cases part with
    | head => exact of_filter_eq_singleton there onlyHead
    | body => exact of_filter_eq_singleton there onlyBody
  · rw [same] at both
    cases both

/-- Each section has a rule of permitted names. -/
theorem Section.exists_rule (part : Section) :
    ∃ rule names, Rule.for? part.tag = some rule ∧ rule.containment = .only names := by
  cases part with
  | head => exact ⟨_, _, rfl, rfl⟩
  | body => exact ⟨_, _, rfl, rfl⟩

theorem report_content (found : sections? s (parse text) = some sections) {part : Section}
    {rule : Rule} (known : Rule.for? part.tag = some rule) {names : List String}
    (only : rule.containment = .only names) :
    (Check.content part).report s (parse text) limit =
      ((sections.get part).offenders text rule.containment).map
        fun t => (Violation.contents rule).report (s.range t.span) := by
  obtain ⟨there, tag, -⟩ := of_sections? found part
  rw [← tag] at known
  rw [Check.report, found, Option.elim_some, checkContent_eq there known only, only]

theorem report_nesting (found : sections? s (parse text) = some sections) (part : Section) :
    (Check.nesting part).report s (parse text) limit =
      (((sections.get part).children.placed []).filterMap
        (Nesting.breach? s (max 1 limit))).map fun breach => breach.2.report (s.range breach.1) := by
  rw [Check.report, found, Option.elim_some]
  exact diagnostics_checkNesting (of_sections? found part).1 s limit

end Parsed

/-! ## Wording -/

namespace Check

/-- The violations that a check reports. -/
def violations : Check → List Violation
  | start => [.missingStart]
  | stop => [.missingEnd]
  | roots => [.extraRoot]
  | count part => [.sectionCount part.tag]
  | content part => (Rule.for? part.tag).toList.map .contents
  | nesting _ => ([Tag.title, Tag.span].filterMap Rule.for?).map .contents

/-- Whether a check is about nesting. -/
def isNesting : Check → Bool
  | nesting _ => true
  | _ => false

/-- A message tells the check it comes from, or at least that it is about nesting. -/
theorem eq_or_isNesting_of_message_eq {c c' : Check} {v v' : Violation} (left : v ∈ c.violations)
    (right : v' ∈ c'.violations) (same : v.message = v'.message) :
    c = c' ∨ c.isNesting = true ∧ c'.isNesting = true := by
  have table : ∀ c ∈ all, ∀ c' ∈ all, ∀ v ∈ c.violations, ∀ v' ∈ c'.violations,
      v.message = v'.message → c = c' ∨ c.isNesting = true ∧ c'.isNesting = true := by
    decide +kernel
  exact table c c.mem_all c' c'.mem_all v left v' right same

/-! ## Entries -/

/-- What the entries of a check can be, with what each of them points at. -/
inductive Entry (text : List Char) : Check → Diagnostic → Prop
  | start : Entry text .start (Violation.missingStart.report missingStartRange)
  | stop : Entry text .stop (Violation.missingEnd.report (missingEndRange (.ofText text)))
  | root {e : Element} (there : e ∈ (parse text).nodes.preorder) (pair : e.isPair .html = true) :
    Entry text .roots (Violation.extraRoot.report ((Source.ofText text).range e.opening))
  | count (part : Section) :
    Entry text (.count part)
      ((Violation.sectionCount part.tag).report (sectionCountRange (.ofText text) part.tag))
  | tag {part : Section} {sections : Sections} {rule : Rule} {t : Token}
    (found : sections? (.ofText text) (parse text) = some sections)
    (known : Rule.for? part.tag = some rule)
    (offends : t ∈ (sections.get part).offenders text rule.containment) :
    Entry text (.content part)
      ((Violation.contents rule).report ((Source.ofText text).range t.span))
  | element {part : Section} {e : Element} {rule : Rule}
    (there : e ∈ (parse text).nodes.preorder) (paired : e.isPaired = true)
    (named : e.tag ∈ [Tag.title, Tag.span]) (known : Rule.for? e.tag = some rule) :
    Entry text (.nesting part)
      ((Violation.contents rule).report ((Source.ofText text).range e.outer))

variable {text : List Char} {limit : Nat} {c : Check} {d : Diagnostic}

/-- An entry about nesting is about a `title` or a `span` that has both tags. -/
theorem entry_of_breach {part : Section} {e : Element} (there : e ∈ (parse text).nodes.preorder)
    {below : List String} {v : Violation}
    (broken : Nesting.violation? (.ofText text) e below = some v) :
    Entry text (.nesting part) (v.report ((Source.ofText text).range e.outer)) := by
  obtain ⟨rule, known, rfl, paired, other⟩ := Nesting.of_violation?_eq_some broken
  refine .element there paired ?_ known
  by_contra none
  simp only [List.mem_cons, List.not_mem_nil, or_false, not_or] at none
  obtain ⟨names, only⟩ :=
    Rule.containment_of_ne (isRegular_parse there).named known none.1 none.2
  exact other names only

/-- Whatever a check reports is one of its entries. -/
theorem entry_of_mem_report (among : d ∈ c.report (.ofText text) (parse text) limit) :
    Entry text c d := by
  cases c with
  | start =>
    obtain ⟨-, same⟩ := List.mem_ite_nil_left.1 among
    cases List.mem_singleton.1 same
    exact .start
  | stop =>
    obtain ⟨-, same⟩ := List.mem_ite_nil_left.1 among
    cases List.mem_singleton.1 same
    exact .stop
  | roots =>
    rw [report_roots] at among
    obtain ⟨e, later, rfl⟩ := List.mem_map.1 among
    obtain ⟨there, pair⟩ := of_mem_roots (List.mem_of_mem_tail later)
    exact .root there pair
  | count part =>
    rw [report] at among
    cases found : (matchRoot (.ofText text) (parse text)).1 with
    | none => simp [found] at among
    | some root =>
      rw [found, Option.elim_some] at among
      unfold matchSection at among
      split at among
      next ok => cases among
      next error bad =>
        split at bad
        · cases bad
        · cases bad
          cases List.mem_singleton.1 among
          exact .count part
  | content part =>
    cases found : sections? (.ofText text) (parse text) with
    | none => simp [report, found] at among
    | some sections =>
      obtain ⟨rule, names, known, only⟩ := part.exists_rule
      rw [report_content found known only] at among
      obtain ⟨t, offends, rfl⟩ := List.mem_map.1 among
      exact .tag found known offends
  | nesting part =>
    cases found : sections? (.ofText text) (parse text) with
    | none => simp [report, found] at among
    | some sections =>
      rw [report_nesting found] at among
      obtain ⟨_, breach, rfl⟩ := List.mem_map.1 among
      obtain ⟨p, below, broken⟩ := List.mem_filterMap.1 breach
      obtain ⟨-, v, violates, rfl⟩ := Nesting.breach?_eq_some_iff.1 broken
      have there := Forest.mem_preorder_of_mem_children (of_sections? found part).1
        (Forest.mem_preorder_of_mem_placed below)
      exact entry_of_breach there violates

/-- An entry has the words of one of the violations of its check. -/
theorem Entry.exists_message_eq (entry : Entry text c d) :
    ∃ v ∈ c.violations, d.message = v.message := by
  cases entry with
  | start => exact ⟨.missingStart, List.mem_cons_self, rfl⟩
  | stop => exact ⟨.missingEnd, List.mem_cons_self, rfl⟩
  | root => exact ⟨.extraRoot, List.mem_cons_self, rfl⟩
  | count part => exact ⟨.sectionCount part.tag, List.mem_cons_self, rfl⟩
  | @tag part sections rule t found known offends =>
    refine ⟨.contents rule, ?_, rfl⟩
    rw [violations, known]
    exact List.mem_cons_self
  | @element part e rule there paired named known =>
    exact ⟨.contents rule, List.mem_map_of_mem (List.mem_filterMap.2 ⟨e.tag, named, known⟩), rfl⟩

/-- The check of an entry is told by its words, apart from the section if they are about nesting. -/
theorem Entry.eq_or_isNesting (entry : Entry text c d) {c' : Check} {v : Violation}
    (right : v ∈ c'.violations) (same : d.message = v.message) :
    c = c' ∨ c.isNesting = true ∧ c'.isNesting = true := by
  obtain ⟨own, left, message⟩ := entry.exists_message_eq
  exact eq_or_isNesting_of_message_eq left right (message.symm.trans same)

end Check

end Mhtml
