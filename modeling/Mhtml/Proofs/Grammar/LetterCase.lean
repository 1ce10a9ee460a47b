import Mhtml.Proofs.Grammar.Lowered
import Mhtml.Proofs.Tree.LetterCase

/-!
# Letter case and reports

A text in lower case has its tree, its lines and its brackets where they were, so
whatever is read off these is reported alike. Two kinds of reports are not: whether
the text starts and ends as it should is asked of its very characters, and the line
given for a missing or repeated section is that of a literal tag. `letter_case_ignored`
says that nothing else differs.
-/

namespace Mhtml

/-! ## Sources -/

theorem restsOf_lowercase (cs : List Char) :
    restsOf (lowercase cs) = (restsOf cs).map (Option.map lowercase) := by
  induction cs with
  | nil => rfl
  | cons c cs ih =>
    show some (lowercase (c :: cs)) ::
      (List.replicate (c.toLower.utf8Size - 1) none ++ restsOf (lowercase cs)) = _
    rw [utf8Size_toLower, ih, restsOf, List.map_cons, List.map_append, List.map_replicate]
    rfl

theorem unitLength_lowercase (cs : List Char) : unitLength (lowercase cs) = unitLength cs := by
  induction cs with
  | nil => rfl
  | cons c cs ih =>
    show unitLength (c.toLower :: lowercase cs) = _
    rw [unitLength_cons, unitLength_cons, unitSize_toLower, ih]

/-- Lines start where they started. -/
theorem Line.following_lowercase (offset : Nat) (cs : List Char) :
    following offset (lowercase cs) =
      (following offset cs).map fun l => ⟨l.start, lowercase l.rest⟩ := by
  induction cs generalizing offset with
  | nil => rfl
  | cons c cs ih =>
    have feed : c.toLower = '\n' ↔ c = '\n' := toLower_eq_iff (by decide) c
    show (if c.toLower = '\n' then ⟨offset + c.toLower.utf8Size, lowercase cs⟩ ::
      following (offset + c.toLower.utf8Size) (lowercase cs)
      else following (offset + c.toLower.utf8Size) (lowercase cs)) = _
    rw [utf8Size_toLower, ih, following]
    simp only [feed]
    split <;> rfl

namespace Source

theorem occursWithin_lowercase (bytes : Nat) (cs : List Char) :
    occursWithin '<' bytes (lowercase cs) = occursWithin '<' bytes cs := by
  induction cs generalizing bytes with
  | nil => rfl
  | cons c cs ih =>
    have bracket : ('<' == c.toLower) = ('<' == c) := by
      rw [Bool.eq_iff_iff, beq_iff_eq, beq_iff_eq, eq_comm, toLower_eq_iff (by decide), eq_comm]
    show (bytes != 0 && ('<' == c.toLower ||
      occursWithin '<' (bytes - c.toLower.utf8Size) (lowercase cs))) = _
    rw [bracket, utf8Size_toLower, ih, occursWithin]

variable (text : List Char)

theorem rest?_lowercase (o : Nat) :
    (ofText (lowercase text)).rest? o = ((ofText text).rest? o).map lowercase := by
  rw [rest?, rest?, ← Array.getElem?_toList, ← Array.getElem?_toList, rests_eq, rests_eq, text_ofText,
    text_ofText, restsOf_lowercase, List.getElem?_map]
  cases (restsOf text)[o]? <;> rfl

theorem takeBytes_lowercase (taken : List Char) (bytes : Nat) (cs : List Char) :
    takeBytes (lowercase taken) bytes (lowercase cs) = lowercase (takeBytes taken bytes cs) := by
  induction cs generalizing taken bytes with
  | nil => exact (List.map_reverse ..).symm
  | cons c cs ih =>
    show (if bytes = 0 then (lowercase taken).reverse
      else takeBytes (lowercase (c :: taken)) (bytes - c.toLower.utf8Size) (lowercase cs)) = _
    rw [utf8Size_toLower, ih, takeBytes]
    split
    · exact (List.map_reverse ..).symm
    · rfl

theorem slice?_lowercase (span : Span) :
    (ofText (lowercase text)).slice? span = ((ofText text).slice? span).map lowercase := by
  have sliceable : (ofText (lowercase text)).isSliceable span = (ofText text).isSliceable span := by
    simp only [isSliceable, rest?_lowercase, Option.isSome_map]
  rw [slice?, slice?, sliceable, rest?_lowercase]
  split
  · cases (ofText text).rest? span.start with
    | none => rfl
    | some cs => exact congrArg some (takeBytes_lowercase [] _ cs)
  · rfl

theorem lines_lowercase : (ofText (lowercase text)).lines.toList =
    (ofText text).lines.toList.map fun l => ⟨l.start, lowercase l.rest⟩ := by
  rw [lines_eq, lines_eq, text_ofText, text_ofText, Line.following_lowercase, List.map_cons]

theorem position_lowercase (o : Nat) :
    (ofText (lowercase text)).position o = (ofText text).position o := by
  have number : ∀ o, (ofText (lowercase text)).firstLineAfter o = (ofText text).firstLineAfter o := by
    intro o
    rw [firstLineAfter, lines_lowercase, List.findIdx_map]
    rfl
  have start : ∀ n : Nat, (ofText (lowercase text)).lines[n]?.elim 0 Line.start =
      (ofText text).lines[n]?.elim 0 Line.start := by
    intro n
    rw [← Array.getElem?_toList, lines_lowercase, List.getElem?_map, Array.getElem?_toList]
    cases (ofText text).lines[n]? <;> rfl
  have units : unitLength ∘ lowercase = unitLength := funext unitLength_lowercase
  simp only [position, size_eq, text_ofText, byteSize_lowercase, number, start, slice?_lowercase,
    Option.map_map, units]

theorem holds_lowercase (span : Span) :
    (ofText (lowercase text)).holds '<' span = (ofText text).holds '<' span := by
  simp only [holds, isSliceable, rest?_lowercase, Option.isSome_map, Option.any_map,
    occursWithin_lowercase]

/-- In lower case a text has its places and its brackets where they were. -/
theorem lowers_lowercase : Lowers 0 (ofText text) (ofText (lowercase text)) where
  position := position_lowercase text
  holds := holds_lowercase text

end Source

/-! ## Reports -/

/-- What is read off a skeleton is the same for sources that agree in places and brackets. -/
theorem ReadsSkeleton.report_congr {report : Source → Document → List Diagnostic}
    (reads : ReadsSkeleton report) {s s' : Source} (alike : Source.Lowers 0 s s') (d : Document) :
    report s' d = report s d := by
  have unmoved : ∀ ds : List Diagnostic, ds.map (Diagnostic.down 0) = ds := List.map_id
  have own := reads (Source.Lowers.refl s') d
  have other := reads alike d
  rw [unmoved] at own other
  exact own.symm.trans other

namespace Diagnostic

/-- The diagnostic is about how the text starts or ends. -/
def IsAboutEnds (d : Diagnostic) : Prop :=
  d.message = Violation.missingStart.message ∨ d.message = Violation.missingEnd.message

/-- The diagnostic is about the number of a section. -/
def IsAboutCount (d : Diagnostic) : Prop :=
  ∃ part ∈ [Section.head, Section.body], d.message = (Violation.sectionCount part.tag).message

instance (d : Diagnostic) : Decidable d.IsAboutEnds :=
  instDecidableOr

instance (d : Diagnostic) : Decidable d.IsAboutCount :=
  inferInstanceAs (Decidable (∃ part ∈ [Section.head, Section.body],
    d.message = (Violation.sectionCount part.tag).message))

/-- The diagnostic with the same columns on the first line. -/
def onFirstLine (d : Diagnostic) : Diagnostic :=
  ⟨d.severity, ⟨⟨0, d.range.start.character⟩, ⟨0, d.range.stop.character⟩⟩, d.message⟩

/-- Only the line of a report about a section depends on the text. -/
theorem onFirstLine_sectionCount (v : Violation) (s : Source) (tag : Tag) :
    (v.report (sectionCountRange s tag)).onFirstLine = v.report ⟨⟨0, 0⟩, ⟨0, sectionCountWidth⟩⟩ :=
  rfl

end Diagnostic

namespace Check

/-- The check is about the number of a section. -/
def isCount : Check → Bool
  | count _ => true
  | _ => false

/-- The check is about how the text starts or ends. -/
def isEnd : Check → Bool
  | start | stop => true
  | _ => false

variable {text : List Char} {limit : Nat} {c : Check} {d : Diagnostic}

theorem isAboutEnds_iff (among : d ∈ c.report (.ofText text) (parse text) limit) :
    d.IsAboutEnds ↔ c.isEnd = true := by
  have entry := entry_of_mem_report among
  constructor
  · rintro (told | told)
    · have own : Violation.missingStart ∈ Check.start.violations := List.mem_cons_self
      cases entry.eq_of_message_eq own told rfl
      rfl
    · have own : Violation.missingEnd ∈ Check.stop.violations := List.mem_cons_self
      cases entry.eq_of_message_eq own told rfl
      rfl
  · intro ends
    cases entry with
    | start => exact Or.inl rfl
    | stop => exact Or.inr rfl
    | root | count | tag | element => cases ends

theorem isAboutCount_iff (among : d ∈ c.report (.ofText text) (parse text) limit) :
    d.IsAboutCount ↔ c.isCount = true := by
  have entry := entry_of_mem_report among
  constructor
  · rintro ⟨part, -, told⟩
    have own : Violation.sectionCount part.tag ∈ (Check.count part).violations :=
      List.mem_cons_self
    cases entry.eq_of_message_eq own told rfl
    rfl
  · intro counts
    cases entry with
    | count part => exact ⟨part, by cases part <;> simp, rfl⟩
    | start | stop | root | tag | element => cases counts

variable (text limit)

/-- What a pass reports about sections is what the checks of their numbers do. -/
theorem filter_isAboutCount (c : Check) :
    (c.report (.ofText text) (parse text) limit).filter (·.IsAboutCount) =
      if c.isCount then c.report (.ofText text) (parse text) limit else [] := by
  cases counts : c.isCount with
  | true =>
    refine List.filter_eq_self.2 fun d among => ?_
    simpa [counts] using isAboutCount_iff among
  | false =>
    refine List.filter_eq_nil_iff.2 fun d among => ?_
    simpa [counts] using isAboutCount_iff among

/-- What a pass reports about neither the ends nor the sections comes from the other checks. -/
theorem filter_isAboutNeither (c : Check) :
    (c.report (.ofText text) (parse text) limit).filter
        (fun d => ¬ d.IsAboutEnds ∧ ¬ d.IsAboutCount) =
      if c.isEnd || c.isCount then [] else c.report (.ofText text) (parse text) limit := by
  cases other : c.isEnd || c.isCount with
  | true =>
    refine List.filter_eq_nil_iff.2 fun d among => ?_
    rw [Bool.or_eq_true, ← isAboutEnds_iff among, ← isAboutCount_iff among] at other
    simpa using fun none => other.resolve_left none
  | false =>
    refine List.filter_eq_self.2 fun d among => ?_
    rw [Bool.or_eq_false_iff, ← Bool.not_eq_true, ← Bool.not_eq_true, ← isAboutEnds_iff among,
      ← isAboutCount_iff among] at other
    exact decide_eq_true other

/-- What is reported about the tree is reported alike. -/
theorem report_lowercase (c : Check) (inner : (c.isEnd || c.isCount) = false) :
    c.report (.ofText (lowercase text)) (parse (lowercase text)) limit =
      c.report (.ofText text) (parse text) limit := by
  have alike := Source.lowers_lowercase text
  rw [parse_lowercase]
  cases c with
  | roots => exact (readsSkeleton_roots limit).report_congr alike (parse text)
  | content part => exact (readsSkeleton_content limit part).report_congr alike (parse text)
  | nesting part => exact (readsSkeleton_nesting limit part).report_congr alike (parse text)
  | start | stop | count => cases inner

/-- The number of a section is reported alike, on whatever line. -/
theorem report_count_lowercase (part : Section) :
    ((count part).report (.ofText (lowercase text)) (parse (lowercase text)) limit).map
        Diagnostic.onFirstLine =
      ((count part).report (.ofText text) (parse text) limit).map Diagnostic.onFirstLine := by
  have lacks' : lacks (.ofText (lowercase text)) (parse text) part =
      lacks (.ofText text) (parse text) part :=
    (lacks_skeleton 0 _ (.ofText (lowercase text)) _ part).symm.trans
      (lacks_skeleton 0 _ (.ofText (lowercase text)) _ part)
  rw [parse_lowercase, report_count, report_count, lacks']
  split
  · simp only [List.map_singleton, Diagnostic.onFirstLine_sectionCount]
  · rfl

end Check

/-- **Letter case is ignored.** A text in lower case has the tree that it had. Whatever the limit, the
diagnostics that are not about its ends or about the number of a section are the same, and those about
the number of a section are the same apart from their line. -/
theorem letter_case_ignored (text : List Char) :
    parse (text.map Char.toLower) = parse text ∧
    ∀ limit,
      let before := (validate limit text).diagnostics
      let after := (validate limit (text.map Char.toLower)).diagnostics
      after.filter (fun d => ¬ d.IsAboutEnds ∧ ¬ d.IsAboutCount) =
        before.filter (fun d => ¬ d.IsAboutEnds ∧ ¬ d.IsAboutCount) ∧
      (after.filter (·.IsAboutCount)).map Diagnostic.onFirstLine =
        (before.filter (·.IsAboutCount)).map Diagnostic.onFirstLine := by
  refine ⟨parse_lowercase text, fun limit => ?_⟩
  show List.filter _ (validate limit (lowercase text)).diagnostics = _ ∧
    List.map _ (List.filter _ (validate limit (lowercase text)).diagnostics) = _
  simp only [Check.diagnostics_eq_flatMap, List.filter_flatMap, List.map_flatMap,
    Check.filter_isAboutNeither, Check.filter_isAboutCount]
  constructor
  · congr 1
    funext c
    cases inner : c.isEnd || c.isCount with
    | true => rw [if_pos rfl, if_pos rfl]
    | false =>
      rw [if_neg Bool.false_ne_true, if_neg Bool.false_ne_true]
      exact Check.report_lowercase text limit c inner
  · congr 1
    funext c
    cases counts : c.isCount with
    | true =>
      rw [if_pos rfl, if_pos rfl]
      cases c with
      | count part => exact Check.report_count_lowercase text limit part
      | start | stop | roots | content | nesting => cases counts
    | false => rw [if_neg Bool.false_ne_true, if_neg Bool.false_ne_true]

end Mhtml
