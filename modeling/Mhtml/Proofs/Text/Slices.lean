import Mathlib.Data.List.TakeDrop
import Mhtml.Source.Basic

/-!
# Edges and slices

An offset is an edge of a text when a whole number of characters stands before
it, and every other one is inside a character. Between two edges in order lies
exactly one piece of the text, and that piece is what a source gives as the slice
there. From or to the inside of a character there is no slice.
-/

namespace Mhtml

theorem byteSize_eq_zero {cs : List Char} : byteSize cs = 0 ↔ cs = [] := by
  cases cs with
  | nil => simp
  | cons c cs =>
    have := c.utf8Size_pos
    simp only [byteSize_cons, reduceCtorEq, iff_false]
    omega

/-- A run takes what it can, and leaves what starts with something else. -/
theorem span_append {p : Char → Bool} {run rest : List Char} (all : ∀ c ∈ run, p c = true)
    (ends : ∀ c ∈ rest.head?, p c = false) : (run ++ rest).span p = (run, rest) := by
  rw [List.span_eq_takeWhile_dropWhile, List.takeWhile_append_of_pos all,
    List.dropWhile_append_of_pos all]
  cases rest with
  | nil => simp
  | cons c rest =>
    have stop : p c = false := ends c rfl
    simp [stop]

theorem append_of_span {p : Char → Bool} {cs run rest : List Char} (cut : cs.span p = (run, rest)) :
    cs = run ++ rest ∧ (∀ c ∈ run, p c = true) ∧ ∀ c ∈ rest.head?, p c = false := by
  rw [List.span_eq_takeWhile_dropWhile] at cut
  cases cut
  refine ⟨List.takeWhile_append_dropWhile.symm, List.all_eq_true.1 List.all_takeWhile, ?_⟩
  intro c first
  have ends := List.head?_dropWhile_not p cs
  rw [Option.mem_def.1 first] at ends
  simpa using ends

/-- A whole number of characters of the text stands before `offset`. -/
def IsEdge (text : List Char) (offset : Nat) : Prop :=
  ∃ before after, text = before ++ after ∧ byteSize before = offset

/-- The characters of the text at `span` are `piece`. -/
def TextAt (text : List Char) (span : Span) (piece : List Char) : Prop :=
  ∃ before after, text = before ++ piece ++ after ∧ byteSize before = span.start ∧
    byteSize before + byteSize piece = span.stop

/-- Of two ways to cut a text the one with fewer bytes in front cuts earlier. -/
theorem exists_append_of_byteSize_le {before after before' after' : List Char}
    (same : before ++ after = before' ++ after') (le : byteSize before ≤ byteSize before') :
    ∃ piece, before' = before ++ piece ∧ after = piece ++ after' := by
  rcases List.append_eq_append_iff.1 same with ⟨piece, rfl, rfl⟩ | ⟨piece, rfl, rfl⟩
  · exact ⟨piece, rfl, rfl⟩
  · have none : piece = [] := by
      rw [← byteSize_eq_zero]
      rw [byteSize_append] at le
      omega
    subst none
    exact ⟨[], by simp, by simp⟩

/-- Between two edges in order there is a piece of the text. -/
theorem IsEdge.exists_textAt {text : List Char} {start stop : Nat} (first : IsEdge text start)
    (last : IsEdge text stop) (le : start ≤ stop) : ∃ piece, TextAt text ⟨start, stop⟩ piece := by
  obtain ⟨before, after, rfl, rfl⟩ := first
  obtain ⟨before', after', same, rfl⟩ := last
  obtain ⟨piece, rfl, rfl⟩ := exists_append_of_byteSize_le same le
  exact ⟨piece, before, after', by simp, rfl, by simp⟩

/-- Two ways to cut a text with as many bytes in front are one. -/
theorem append_inj_of_byteSize_eq {before after before' after' : List Char}
    (same : before ++ after = before' ++ after') (size : byteSize before = byteSize before') :
    before = before' ∧ after = after' := by
  obtain ⟨piece, rfl, rfl⟩ := exists_append_of_byteSize_le same (Nat.le_of_eq size)
  have none : piece = [] := by
    rw [← byteSize_eq_zero]
    rw [byteSize_append] at size
    omega
  subst none
  simp

/-- The offset is inside the character `c` that stands after `before`. -/
structure IsInside (text : List Char) (offset : Nat) (before : List Char) (c : Char) : Prop where
  whole : ∃ after, text = before ++ c :: after
  start : byteSize before < offset
  stop : offset < byteSize before + c.utf8Size

/-- Every offset within a text is an edge or inside a character. -/
theorem isEdge_or_isInside {text : List Char} {o : Nat} (within : o ≤ byteSize text) :
    IsEdge text o ∨ ∃ before c, IsInside text o before c := by
  induction text generalizing o with
  | nil =>
    rw [byteSize_nil, Nat.le_zero] at within
    exact Or.inl ⟨[], [], rfl, within.symm⟩
  | cons d cs ih =>
    rw [byteSize_cons] at within
    by_cases first : o < d.utf8Size
    · by_cases zero : o = 0
      · exact Or.inl ⟨[], d :: cs, rfl, zero.symm⟩
      · refine Or.inr ⟨[], d, ⟨cs, rfl⟩, ?_, ?_⟩ <;> rw [byteSize_nil] <;> omega
    · rcases ih (o := o - d.utf8Size) (by omega) with edge | ⟨before, c, inside⟩
      · obtain ⟨before, after, rfl, size⟩ := edge
        refine Or.inl ⟨d :: before, after, rfl, ?_⟩
        rw [byteSize_cons]
        omega
      · obtain ⟨⟨after, rfl⟩, start, stop⟩ := inside
        refine Or.inr ⟨d :: before, c, ⟨after, rfl⟩, ?_, ?_⟩ <;> rw [byteSize_cons] <;> omega

/-- No edge is between the start of a character and an offset inside it. -/
theorem IsInside.le_iff {text before : List Char} {o e : Nat} {c : Char}
    (inside : IsInside text o before c) (edge : IsEdge text e) : e ≤ o ↔ e ≤ byteSize before := by
  obtain ⟨⟨after, rfl⟩, start, stop⟩ := inside
  refine ⟨fun le => ?_, fun le => Nat.le_of_lt (Nat.lt_of_le_of_lt le start)⟩
  apply Nat.le_of_not_lt
  intro later
  obtain ⟨front, back, same, rfl⟩ := edge
  obtain ⟨piece, rfl, rest⟩ := exists_append_of_byteSize_le same (Nat.le_of_lt later)
  rw [byteSize_append] at later le
  cases piece with
  | nil => simp at later
  | cons d piece =>
    cases rest
    rw [byteSize_cons] at le
    omega

theorem IsInside.not_isEdge {text before : List Char} {o : Nat} {c : Char}
    (inside : IsInside text o before c) : ¬ IsEdge text o := by
  intro edge
  have le := (inside.le_iff edge).1 (Nat.le_refl o)
  exact absurd inside.start (Nat.not_lt_of_le le)

/-- Behind some text the rests are those of what follows. -/
theorem getElem?_restsOf_append (before after : List Char) (i : Nat) :
    (restsOf (before ++ after))[byteSize before + i]? = (restsOf after)[i]? := by
  induction before with
  | nil => rw [byteSize_nil, Nat.zero_add, List.nil_append]
  | cons c before ih =>
    have pos := c.utf8Size_pos
    have index : byteSize (c :: before) + i = byteSize before + i + (c.utf8Size - 1) + 1 := by
      rw [byteSize_cons]
      omega
    rw [List.cons_append, restsOf, index, List.getElem?_cons_succ,
      List.getElem?_append_right (by simp)]
    simpa using ih

namespace Source

theorem getElem?_rests {s : Source} {before after : List Char} (text : s.text = before ++ after)
    (i : Nat) : s.rests[byteSize before + i]? = (restsOf after)[i]? := by
  rw [← Array.getElem?_toList, s.rests_eq, text, getElem?_restsOf_append]

theorem rest?_eq {s : Source} {before after : List Char} (text : s.text = before ++ after) :
    s.rest? (byteSize before) = some after := by
  have found := getElem?_rests text 0
  rw [Nat.add_zero] at found
  rw [rest?, found]
  cases after <;> rfl

theorem rest?_of_isInside {s : Source} {before : List Char} {o : Nat} {c : Char}
    (inside : IsInside s.text o before c) : s.rest? o = none := by
  obtain ⟨⟨after, text⟩, start, stop⟩ := inside
  obtain ⟨i, rfl⟩ : ∃ i, o = byteSize before + (i + 1) := ⟨o - byteSize before - 1, by omega⟩
  rw [rest?, getElem?_rests text, restsOf, List.getElem?_cons_succ,
    List.getElem?_append_left (by rw [List.length_replicate]; omega),
    List.getElem?_replicate_of_lt (by omega)]
  rfl

theorem takeBytes_append (taken piece after : List Char) :
    takeBytes taken (byteSize piece) (piece ++ after) = taken.reverse ++ piece := by
  induction piece generalizing taken with
  | nil => cases after <;> simp [takeBytes]
  | cons c piece ih =>
    have pos := c.utf8Size_pos
    have some : byteSize (c :: piece) ≠ 0 := by
      rw [byteSize_cons]
      omega
    rw [List.cons_append, takeBytes, if_neg some, byteSize_cons, Nat.add_sub_cancel_left, ih]
    simp

/-- The slice at a span is the piece of the text that stands there. -/
theorem slice?_of_textAt {s : Source} {span : Span} {piece : List Char}
    (found : TextAt s.text span piece) : s.slice? span = some piece := by
  obtain ⟨before, after, text, start, stop⟩ := found
  have first : s.rest? span.start = some (piece ++ after) := by
    rw [← start]
    exact rest?_eq (by rw [text, List.append_assoc])
  have last : s.rest? span.stop = some after := by
    rw [← stop, ← byteSize_append]
    exact rest?_eq text
  have size : span.stop - span.start = byteSize piece := by omega
  have ordered : span.start ≤ span.stop := by omega
  have sliceable : s.isSliceable span = true := by
    simp [isSliceable, first, last, ordered]
  rw [slice?, if_pos sliceable, first, Option.map_some, size, takeBytes_append]
  simp

/-- Nothing is cut off inside a character. -/
theorem slice?_of_isInside {s : Source} {before : List Char} {o : Nat} {c : Char}
    (inside : IsInside s.text o before c) (start : Nat) : s.slice? ⟨start, o⟩ = none := by
  have none : s.isSliceable ⟨start, o⟩ = false := by
    simp [isSliceable, rest?_of_isInside inside]
  rw [slice?, none, if_neg (by decide)]

end Source

end Mhtml
