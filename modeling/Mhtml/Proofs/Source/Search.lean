import Mathlib.Data.Nat.PSub
import Mhtml.Proofs.Source.Lines

/-!
# Positions by search

The lines are searched for the first one that starts after an offset, and what stands
between the start of the line before and the offset is measured. No line starts inside
a character, so that the line found is that of the character: `position_eq` tells the
position of an edge by what stands before it, and `IsInside.position_eq` that of an
offset inside a character, up to which nothing can be cut out.

On the way a number is lessened, a table is looked up and a text is cut, and each of
these can fail. `search?` and `readLine?` say so, and give nothing as soon as one of
them does. `search?_eq` and `readLine?_eq` show that none ever does, for a line of any
number and for every edge of the text.
-/

namespace Mhtml

/-- A search that stops at place `k` is told by what it says of each place. -/
theorem findIdx_eq_of_told {α : Type} {p : α → Bool} {xs : List α} {k : Nat} (within : k ≤ xs.length)
    (told : ∀ n x, xs[n]? = some x → (p x = true ↔ k ≤ n)) : xs.findIdx p = k := by
  apply Nat.le_antisymm
  · apply Nat.le_of_not_lt
    intro beyond
    have there : k < xs.length := Nat.lt_of_lt_of_le beyond List.findIdx_le_length
    have found := (told k xs[k] (List.getElem?_eq_getElem there)).2 (Nat.le_refl k)
    have passed := List.not_of_lt_findIdx beyond
    rw [found] at passed
    cases passed
  · apply Nat.le_of_not_lt
    intro early
    have there : xs.findIdx p < xs.length := Nat.lt_of_lt_of_le early within
    have late := (told _ _ (List.getElem?_eq_getElem there)).1 (List.findIdx_getElem (w := there))
    omega

namespace Source

/-- The position of an offset, if every step of the search for it succeeds. -/
def search? (s : Source) (offset : Nat) : Option Position := do
  let offset := min offset s.size
  let n ← (s.firstLineAfter offset).ppred
  let line ← s.lines[n]?
  let before ← s.slice? ⟨line.start, offset⟩
  return ⟨n, unitLength before⟩

/-- The range of a span by search. -/
def searchRange? (s : Source) (span : Span) : Option Range := do
  return ⟨← s.search? span.start, ← s.search? span.stop⟩

/-- Where line `n` stands, up to the line feed that ends it or to the end of the text. -/
def lineSpan? (s : Source) (n : Nat) (line : Line) : Option Span :=
  match s.lines[n + 1]? with
  | some next => next.start.ppred.map fun stop => ⟨line.start, stop⟩
  | none => some ⟨line.start, s.size⟩

/-- The text of a line, cut out of the whole text; empty when there is no such line. -/
def readLine? (s : Source) (n : Nat) : Option (List Char) :=
  match s.lines[n]? with
  | none => some []
  | some line => do
    let content ← s.slice? (← s.lineSpan? n line)
    return if content.getLast? = some '\r' then content.dropLast else content

variable {s : Source}

/-- A line starts at or before an edge just if no more line feeds stand before it. -/
theorem start_le_iff {n : Nat} {line : Line} (found : s.lines[n]? = some line)
    {before after : List Char} (text : s.text = before ++ after) :
    line.start ≤ byteSize before ↔ n ≤ before.count '\n' := by
  obtain ⟨front, starts, whole, start, rfl⟩ := lines_getElem?_iff.1 found
  rw [start]
  constructor
  · intro le
    obtain ⟨piece, rfl, -⟩ := exists_append_of_byteSize_le (whole.symm.trans text) le
    rw [List.count_append]
    exact Nat.le_add_right _ _
  · intro fewer
    apply Nat.le_of_not_lt
    intro less
    obtain ⟨piece, rfl, -⟩ :=
      exists_append_of_byteSize_le (text.symm.trans whole) (Nat.le_of_lt less)
    -- What stands before a line ends with a line feed, which is then one too many.
    have some : piece ≠ [] := by
      rintro rfl
      rw [List.append_nil] at less
      exact Nat.lt_irrefl _ less
    have feed : '\n' ∈ piece := by
      rcases starts with none | last
      · exact absurd (List.append_eq_nil_iff.1 none).2 some
      · rw [List.getLast?_append, List.getLast?_eq_some_getLast some, Option.some_or] at last
        rw [← Option.some.inj last]
        exact List.getLast_mem some
    have := List.count_pos_iff.2 feed
    rw [List.count_append] at fewer
    omega

/-- What stands before an edge is what stands before its line, and a text without a line feed. -/
theorem exists_line_at {before after : List Char} (text : s.text = before ++ after) :
    ∃ front line, before = front ++ line ∧ StartsLine front ∧ '\n' ∉ line ∧
      before.count '\n' = front.count '\n' ∧
      s.lines[front.count '\n']? = some ⟨byteSize front, line ++ after⟩ := by
  obtain ⟨front, line, rfl, starts, plain⟩ := exists_lastLine before
  refine ⟨front, line, rfl, starts, plain, ?_, ?_⟩
  · rw [List.count_append, List.count_eq_zero_of_not_mem plain, Nat.add_zero]
  · exact lines_getElem?_iff.2 ⟨front, starts, by rw [text, List.append_assoc], rfl, rfl⟩

/-- The first line after an offset is told by the last edge that is not after it. -/
theorem firstLineAfter_eq {before after : List Char} {o : Nat} (text : s.text = before ++ after)
    (last : ∀ e, IsEdge s.text e → (e ≤ o ↔ e ≤ byteSize before)) :
    s.firstLineAfter o = before.count '\n' + 1 := by
  obtain ⟨front, line, -, -, -, count, own⟩ := exists_line_at text
  refine findIdx_eq_of_told ?_ ?_
  · rw [count, Array.length_toList]
    exact (Array.getElem?_eq_some_iff.1 own).1
  · intro n line found
    rw [Array.getElem?_toList] at found
    obtain ⟨front, -, whole, start, -⟩ := lines_getElem?_iff.1 found
    have edge : IsEdge s.text line.start := ⟨front, line.rest, whole, start.symm⟩
    rw [decide_eq_true_eq, ← Nat.not_le, last _ edge, start_le_iff found text]
    omega

/-- Offsets past the end count as the end. -/
theorem position_min (s : Source) (o : Nat) : s.position (min o (byteSize s.text)) = s.position o := by
  rw [position, position, s.size_eq, Nat.min_assoc, Nat.min_self]

/-- The position of an edge is found by going through the text before it. -/
theorem position_eq {before after : List Char} (text : s.text = before ++ after) :
    s.position (byteSize before) = Position.past ⟨0, 0⟩ before := by
  have within : min (byteSize before) s.size = byteSize before := by
    rw [s.size_eq, text, byteSize_append]
    exact Nat.min_eq_left (Nat.le_add_right _ _)
  have number := firstLineAfter_eq text fun _ _ => Iff.rfl
  obtain ⟨front, line, rfl, starts, plain, count, found⟩ := exists_line_at text
  have cut : s.slice? ⟨byteSize front, byteSize (front ++ line)⟩ = some line :=
    slice?_of_textAt ⟨front, after, text, rfl, by rw [byteSize_append]⟩
  rw [Position.past_line starts plain]
  simp only [position, within, number, count, Nat.add_sub_cancel, found, Option.elim_some, cut,
    Option.map_some, Option.getD_some]

/-- At an edge no step of the search fails. -/
theorem search?_eq {o : Nat} (edge : IsEdge s.text o) : s.search? o = some (s.position o) := by
  obtain ⟨before, after, text, rfl⟩ := edge
  have within : min (byteSize before) s.size = byteSize before := by
    rw [s.size_eq, text, byteSize_append]
    exact Nat.min_eq_left (Nat.le_add_right _ _)
  have number := firstLineAfter_eq text fun _ _ => Iff.rfl
  obtain ⟨front, line, rfl, starts, plain, count, found⟩ := exists_line_at text
  have cut : s.slice? ⟨byteSize front, byteSize (front ++ line)⟩ = some line :=
    slice?_of_textAt ⟨front, after, text, rfl, by rw [byteSize_append]⟩
  rw [position_eq text, Position.past_line starts plain]
  simp only [search?, within, number, count, Nat.ppred, found, cut, Option.bind_eq_bind,
    Option.bind_some, Option.pure_def]

theorem searchRange?_eq {span : Span} (first : IsEdge s.text span.start)
    (last : IsEdge s.text span.stop) : s.searchRange? span = some (s.range span) := by
  simp only [searchRange?, search?_eq first, search?_eq last, Option.bind_eq_bind, Option.bind_some,
    Option.pure_def, range]

/-- Whatever the offset, there is a line before the first one after it. -/
theorem exists_line_before (s : Source) (o : Nat) :
    ∃ n line, (s.firstLineAfter o).ppred = some n ∧ s.lines[n]? = some line ∧ line.start ≤ o := by
  -- The first line starts at zero, so the search goes past it.
  obtain ⟨n, past⟩ : ∃ n, s.firstLineAfter o = n + 1 := by
    rw [firstLineAfter, s.lines_eq, List.findIdx_cons]
    exact ⟨_, rfl⟩
  have before : n < s.lines.toList.findIdx (o < ·.start) := by
    show n < s.firstLineAfter o
    omega
  have within : n < s.lines.toList.length := Nat.lt_of_lt_of_le before List.findIdx_le_length
  have passed := List.not_of_lt_findIdx before
  rw [decide_eq_false_iff_not, Nat.not_lt] at passed
  refine ⟨n, s.lines.toList[n], by rw [past]; rfl, ?_, passed⟩
  rw [← Array.getElem?_toList]
  exact List.getElem?_eq_getElem within

/-- After the last line feed there is no further line. -/
theorem lines_getElem?_eq_none {n : Nat} (more : s.text.count '\n' < n) : s.lines[n]? = none := by
  cases found : s.lines[n]? with
  | none => rfl
  | some line =>
    obtain ⟨before, -, text, start, -⟩ := lines_getElem?_iff.1 found
    have within : line.start ≤ byteSize s.text := by
      rw [start, text, byteSize_append]
      exact Nat.le_add_right _ _
    have := (start_le_iff found (List.append_nil s.text).symm).1 within
    omega

/-- A line stands between its start and the line feed that ends it, or the end of the text. -/
theorem lineSpan?_eq {n : Nat} {line : Line} (found : s.lines[n]? = some line) :
    ∃ span, s.lineSpan? n line = some span ∧ span.start = line.start ∧
      TextAt s.text span (line.rest.takeWhile (· ≠ '\n')) := by
  obtain ⟨before, starts, text, start, number⟩ := lines_getElem?_iff.1 found
  have plain : '\n' ∉ line.rest.takeWhile (· ≠ '\n') := by
    intro inside
    simpa using List.all_eq_true.1 List.all_takeWhile '\n' inside
  have parts := List.takeWhile_append_dropWhile (p := (· ≠ '\n')) (l := line.rest)
  have first := List.head?_dropWhile_not (· ≠ '\n') line.rest
  generalize line.rest.takeWhile (· ≠ '\n') = content at plain parts ⊢
  rw [← parts] at text
  have count : (before ++ content).count '\n' = n := by
    rw [List.count_append, List.count_eq_zero_of_not_mem plain, number, Nat.add_zero]
  cases tail : line.rest.dropWhile (· ≠ '\n') with
  | nil =>
    rw [tail, List.append_nil] at text
    have last : s.lines[n + 1]? = none := by
      apply lines_getElem?_eq_none
      rw [text, count]
      exact Nat.lt_succ_self n
    refine ⟨⟨line.start, s.size⟩, by rw [lineSpan?, last], rfl, before, [], ?_, start.symm, ?_⟩
    · rw [text, List.append_nil]
    · rw [s.size_eq, text, byteSize_append]
  | cons c rest =>
    rw [tail] at first text
    have feed : c = '\n' := by simpa using first
    subst feed
    have next : s.lines[n + 1]? = some ⟨byteSize (before ++ content) + 1, rest⟩ := by
      refine lines_getElem?_iff.2 ⟨before ++ content ++ ['\n'], Or.inr ?_, ?_, ?_, ?_⟩
      · rw [List.getLast?_concat]
      · rw [text]
        simp
      · rw [byteSize_append (before ++ content)]
        rfl
      · rw [List.count_append, count]
        rfl
    refine ⟨⟨line.start, byteSize (before ++ content)⟩, ?_, rfl, before, '\n' :: rest, ?_, start.symm, ?_⟩
    · rw [lineSpan?, next]
      rfl
    · rw [text, List.append_assoc]
    · rw [byteSize_append]

/-- The text of a line is cut out of the whole text. -/
theorem readLine?_eq (s : Source) (n : Nat) : s.readLine? n = some (s.lineText n) := by
  cases found : s.lines[n]? with
  | none => rw [readLine?, lineText, found]
  | some line =>
    obtain ⟨span, known, -, there⟩ := lineSpan?_eq found
    simp only [readLine?, lineText, found, known, slice?_of_textAt there, Option.bind_eq_bind,
      Option.bind_some, Option.pure_def, Line.text, Line.first]

end Source

/-- Inside a character the position is the start of the line. -/
theorem IsInside.position_eq {s : Source} {before : List Char} {o : Nat} {c : Char}
    (inside : IsInside s.text o before c) : s.position o = ⟨before.count '\n', 0⟩ := by
  obtain ⟨⟨after, text⟩, start, stop⟩ := id inside
  have within : min o s.size = o := by
    rw [s.size_eq, text, byteSize_append, byteSize_cons]
    omega
  have number := Source.firstLineAfter_eq text fun _ edge => inside.le_iff edge
  simp only [Source.position, within, number, Nat.add_sub_cancel, Source.slice?_of_isInside inside,
    Option.map_none, Option.getD_none]

end Mhtml
