import Mhtml.Proofs.Source.Positions

/-!
# Ranges and spans

Positions grow with the edges of a text. `Source.position_lt` says so, and with it
the range of a span is in order and spans that start one after the other have
ranges that do. A span that starts with a `<` and ends with a `>` can be read off
its range: neither of its ends is one of the places that a position leads away
from. That is `Source.locates_range`.
-/

namespace Mhtml

namespace Position

theorem lt_irrefl (p : Position) : ¬ p < p := by
  rintro (line | ⟨-, character⟩) <;> omega

theorem lt_trans {p q r : Position} (first : p < q) (second : q < r) : p < r := by
  rcases first with line | ⟨line, character⟩ <;> rcases second with line' | ⟨line', character'⟩
  · exact Or.inl (by omega)
  · exact Or.inl (by omega)
  · exact Or.inl (by omega)
  · exact Or.inr ⟨by omega, by omega⟩

theorem le_of_lt {p q : Position} (lt : p < q) : p ≤ q := by
  rcases lt with line | ⟨line, character⟩
  · exact Or.inl line
  · exact Or.inr ⟨line, Nat.le_of_lt character⟩

/-- A character leads to a later position. -/
theorem lt_after (p : Position) (c : Char) : p < p.after c := by
  unfold after
  split
  · exact Or.inl (Nat.lt_succ_self p.line)
  · exact Or.inr ⟨rfl, Nat.lt_add_of_pos_right (unitSize_pos c)⟩

/-- A text leads to a later position, unless it is empty. -/
theorem lt_past {cs : List Char} (some : cs ≠ []) (p : Position) : p < p.past cs := by
  induction cs generalizing p with
  | nil => exact absurd rfl some
  | cons c cs ih =>
    show p < (p.after c).past cs
    by_cases last : cs = []
    · subst last
      exact p.lt_after c
    · exact lt_trans (p.lt_after c) (ih last (p.after c))

end Position

namespace Source

variable {s : Source} {o o' : Nat}

/-- Of two edges the later one has the later position. -/
theorem position_lt (left : IsEdge s.text o) (right : IsEdge s.text o') (lt : o < o') :
    s.position o < s.position o' := by
  obtain ⟨before, after, text, rfl⟩ := left
  obtain ⟨before', after', text', rfl⟩ := right
  obtain ⟨piece, rfl, -⟩ :=
    exists_append_of_byteSize_le (text.symm.trans text') (Nat.le_of_lt lt)
  have some : piece ≠ [] := by
    rintro rfl
    simp at lt
  rw [position_eq text, position_eq text', Position.past_append]
  exact Position.lt_past some _

theorem position_le (left : IsEdge s.text o) (right : IsEdge s.text o') (le : o ≤ o') :
    s.position o ≤ s.position o' := by
  rcases Nat.eq_or_lt_of_le le with same | lt
  · subst same
    exact Or.inr ⟨rfl, Nat.le_refl _⟩
  · exact Position.le_of_lt (position_lt left right lt)

/-- The position of an edge is on one of the lines. -/
theorem line_position_le (edge : IsEdge s.text o) : (s.position o).line ≤ s.lastLine := by
  obtain ⟨front, after, text, rfl⟩ := edge
  obtain ⟨before, line, rfl, starts, plain⟩ := exists_lastLine front
  rw [position_eq text, Position.past_line starts plain]
  refine exists_line_iff.1 ⟨⟨byteSize before, line ++ after⟩, ?_⟩
  exact lines_getElem?_iff.2 ⟨before, starts, by rw [text, List.append_assoc], rfl, rfl⟩

end Source

/-! ## Between brackets -/

theorem TextAt.left {text piece more : List Char} {span : Span}
    (there : TextAt text span (piece ++ more)) :
    TextAt text ⟨span.start, span.start + byteSize piece⟩ piece := by
  obtain ⟨before, after, whole, start, -⟩ := there
  exact ⟨before, more ++ after, by simp [whole], start, by rw [start]⟩

theorem TextAt.right {text piece more : List Char} {span : Span}
    (there : TextAt text span (piece ++ more)) :
    TextAt text ⟨span.stop - byteSize more, span.stop⟩ more := by
  obtain ⟨before, after, whole, start, stop⟩ := there
  rw [byteSize_append] at stop
  refine ⟨before ++ piece, after, by simp [whole], ?_, ?_⟩
  · rw [byteSize_append]
    show byteSize before + byteSize piece = span.stop - byteSize more
    omega
  · rw [byteSize_append]
    show byteSize before + byteSize piece + byteSize more = span.stop
    omega

theorem TextAt.isEdge {text piece : List Char} {span : Span} (there : TextAt text span piece) :
    IsEdge text span.start ∧ IsEdge text span.stop := by
  obtain ⟨before, after, whole, start, stop⟩ := there
  refine ⟨⟨before, piece ++ after, by simp [whole], start⟩, ⟨before ++ piece, after, whole, ?_⟩⟩
  rw [byteSize_append, stop]

/-- The span is not empty, starts with a `<` and ends with a `>`. -/
structure IsFramed (text : List Char) (span : Span) : Prop where
  some : span.start < span.stop
  opens : TextAt text ⟨span.start, span.start + 1⟩ ['<']
  closes : TextAt text ⟨span.stop - 1, span.stop⟩ ['>']

/-- A place before something else than a line feed is not the end of a line. -/
theorem not_followsReturn_of_opens {text : List Char} {o : Nat}
    (opens : TextAt text ⟨o, o + 1⟩ ['<']) : ¬ FollowsReturn text o := by
  obtain ⟨before, after, whole, start, -⟩ := opens
  rintro ⟨before', after', whole', size, -, ends⟩
  rw [List.append_assoc] at whole
  obtain ⟨-, rfl⟩ := append_inj_of_byteSize_eq (whole.symm.trans whole') (start.trans size.symm)
  rcases ends with none | feed
  · cases none
  · cases feed

theorem not_followsReturn_of_closes {text : List Char} {o : Nat}
    (closes : TextAt text ⟨o - 1, o⟩ ['>']) : ¬ FollowsReturn text o := by
  obtain ⟨before, after, whole, -, stop⟩ := closes
  rintro ⟨before', after', whole', size, last, -⟩
  have front : byteSize (before ++ ['>']) = byteSize before' := by
    rw [byteSize_append, stop, size]
  obtain ⟨rfl, -⟩ := append_inj_of_byteSize_eq (whole.symm.trans whole') front
  rw [List.getLast?_concat] at last
  cases last

namespace Source

variable {s : Source} {span : Span}

/-- The two ends of the range have the offsets of the span, which is framed by brackets. -/
structure Locates (s : Source) (range : Range) (span : Span) : Prop where
  start : s.offset? range.start = some span.start
  stop : s.offset? range.stop = some span.stop
  framed : IsFramed s.text span

/-- The range of a span that is framed by brackets is in order and within the lines. -/
theorem range_bounds (framed : IsFramed s.text span) :
    (s.range span).Ordered ∧ (s.range span).start.line ≤ s.lastLine ∧
      (s.range span).stop.line ≤ s.lastLine := by
  have first := framed.opens.isEdge.1
  have last := framed.closes.isEdge.2
  have grows := position_lt first last framed.some
  exact ⟨Position.le_of_lt grows, line_position_le first, line_position_le last⟩

/-- An edge inside a span that is framed by brackets has its position inside the range. -/
theorem position_mem_range (framed : IsFramed s.text span) {o : Nat} (edge : IsEdge s.text o)
    (inside : o ∈ span) :
    (s.range span).start ≤ s.position o ∧ s.position o < (s.range span).stop := by
  obtain ⟨after, before⟩ := Span.mem_iff.1 inside
  exact ⟨position_le framed.opens.isEdge.1 edge after,
    position_lt edge framed.closes.isEdge.2 before⟩

/-- A span that is framed by brackets is read off its range. -/
theorem locates_range (framed : IsFramed s.text span) : s.Locates (s.range span) span where
  start := by
    rcases offset?_position framed.opens.isEdge.1 with ⟨returns, -⟩ | ⟨-, back⟩
    · exact absurd returns (not_followsReturn_of_opens framed.opens)
    · exact back
  stop := by
    rcases offset?_position framed.closes.isEdge.2 with ⟨returns, -⟩ | ⟨-, back⟩
    · exact absurd returns (not_followsReturn_of_closes framed.closes)
    · exact back
  framed := framed

end Source

end Mhtml
