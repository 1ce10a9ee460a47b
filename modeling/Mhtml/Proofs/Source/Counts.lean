import Mathlib.Data.List.DropRight
import Mhtml.Proofs.Source.Ranges

/-!
# Positions as counts

The position of an offset can be had without tables: count the line feeds among the
bytes before it, and the UTF-16 code units since the last of them. An offset is an
edge of the text or inside one of its characters, where only the line is counted. A
line feed is a byte of its own in UTF-8 and no part of a longer character, so bytes
and characters give the same lines. `position_counts` says this of every offset.
-/

namespace Mhtml

/-! ## Bytes -/

/-- The UTF-8 form of a text. -/
def utf8 (cs : List Char) : List UInt8 :=
  cs.flatMap String.utf8EncodeChar

/-- The byte of a line feed. -/
def feedByte : UInt8 := 10

theorem utf8_cons (c : Char) (cs : List Char) :
    utf8 (c :: cs) = String.utf8EncodeChar c ++ utf8 cs :=
  List.flatMap_cons

theorem utf8_append (as bs : List Char) : utf8 (as ++ bs) = utf8 as ++ utf8 bs :=
  List.flatMap_append

theorem length_utf8 (cs : List Char) : (utf8 cs).length = byteSize cs := by
  induction cs with
  | nil => rfl
  | cons c cs ih =>
    rw [utf8_cons, List.length_append, ih, String.length_utf8EncodeChar, byteSize_cons]

/-- The bytes of a character outside ASCII are outside ASCII. -/
theorem le_of_mem_utf8EncodeChar {c : Char} (long : 127 < c.val.toNat) {b : UInt8}
    (among : b ∈ String.utf8EncodeChar c) : 128 ≤ b.toNat := by
  unfold String.utf8EncodeChar at among
  dsimp only at among
  rw [if_neg (by omega)] at among
  split at among
  · simp only [List.mem_cons, List.not_mem_nil, or_false] at among
    rcases among with rfl | rfl <;> rw [UInt8.toNat_ofNat'] <;> omega
  · split at among <;> simp only [List.mem_cons, List.not_mem_nil, or_false] at among
    · rcases among with rfl | rfl | rfl <;> rw [UInt8.toNat_ofNat'] <;> omega
    · rcases among with rfl | rfl | rfl | rfl <;> rw [UInt8.toNat_ofNat'] <;> omega

/-- No other character has the byte of a line feed. -/
theorem feedByte_not_mem {c : Char} (other : c ≠ '\n') :
    feedByte ∉ String.utf8EncodeChar c := by
  intro among
  have feed : feedByte.toNat = 10 := rfl
  rcases Nat.lt_or_ge 127 c.val.toNat with long | short
  · have := le_of_mem_utf8EncodeChar long among
    omega
  · have single : c.utf8Size = 1 := Char.utf8Size_eq_one_iff.2 (UInt32.le_iff_toNat_le.2 short)
    rw [String.utf8EncodeChar_eq_singleton single, List.mem_singleton] at among
    have code := congrArg UInt8.toNat among
    rw [UInt32.toNat_toUInt8, Nat.mod_eq_of_lt (by omega)] at code
    exact other (Char.ext (UInt32.toNat_inj.1 code.symm))

/-- A text has as many line feeds as its UTF-8 form. -/
theorem count_utf8 (cs : List Char) : (utf8 cs).count feedByte = cs.count '\n' := by
  induction cs with
  | nil => rfl
  | cons c cs ih =>
    rw [utf8_cons, List.count_append, ih]
    by_cases feed : c = '\n'
    · subst feed
      have one : (String.utf8EncodeChar '\n').count feedByte = 1 := by decide
      rw [one, List.count_cons_self, Nat.add_comm]
    · rw [List.count_eq_zero_of_not_mem (feedByte_not_mem feed), List.count_cons_of_ne feed,
        Nat.zero_add]

/-- The bytes before an edge are those of the text before it. -/
theorem take_utf8 (before after : List Char) :
    (utf8 (before ++ after)).take (byteSize before) = utf8 before := by
  rw [utf8_append, ← length_utf8, List.take_left']
  rfl

/-! ## Offsets inside characters -/

namespace IsInside

variable {text before : List Char} {o : Nat} {c : Char}

/-- A character that an offset is inside of has more bytes than a line feed. -/
theorem ne_feed (inside : IsInside text o before c) : c ≠ '\n' := by
  rintro rfl
  have size : '\n'.utf8Size = 1 := rfl
  have start := inside.start
  have stop := inside.stop
  omega

/-- The line feeds before the offset are those before the character. -/
theorem count_take (inside : IsInside text o before c) :
    ((utf8 text).take o).count feedByte = before.count '\n' := by
  have none := List.count_eq_zero_of_not_mem (feedByte_not_mem inside.ne_feed)
  obtain ⟨⟨after, rfl⟩, start, stop⟩ := inside
  have part : ((String.utf8EncodeChar c ++ utf8 after).take (o - byteSize before)).count feedByte =
      0 := by
    rw [List.take_append_of_le_length (by rw [String.length_utf8EncodeChar]; omega)]
    exact Nat.eq_zero_of_le_zero (none ▸ (List.take_sublist _ _).count_le feedByte)
  rw [utf8_append, List.take_append, List.take_of_length_le (by rw [length_utf8]; omega),
    length_utf8, utf8_cons, List.count_append, part, count_utf8, Nat.add_zero]

end IsInside

/-! ## Counting -/

/-- What follows the last line feed of a text is its last line. -/
theorem rtakeWhile_line {before line : List Char} (starts : StartsLine before) (plain : '\n' ∉ line) :
    (before ++ line).rtakeWhile (· ≠ '\n') = line := by
  have all : ∀ c ∈ line.reverse, decide (c ≠ '\n') = true := by
    intro c found
    refine decide_eq_true ?_
    rintro rfl
    exact plain (List.mem_reverse.1 found)
  have none : before.reverse.takeWhile (· ≠ '\n') = [] := by
    rcases starts with rfl | ends
    · rfl
    · obtain ⟨front, rfl⟩ := List.getLast?_eq_some_iff.1 ends
      rw [List.reverse_concat]
      rfl
  rw [List.rtakeWhile, List.reverse_append, List.takeWhile_append_of_pos all, none, List.append_nil,
    List.reverse_reverse]

namespace Source

variable {s : Source}

/-- The position of an edge is counted in the text before it. -/
theorem position_edge {before after : List Char} (text : s.text = before ++ after) :
    s.position (byteSize before) =
      ⟨before.count '\n', unitLength (before.rtakeWhile (· ≠ '\n'))⟩ := by
  obtain ⟨front, line, rfl, starts, plain⟩ := exists_lastLine before
  rw [position_eq text, Position.past_line starts plain, rtakeWhile_line starts plain,
    List.count_append, List.count_eq_zero_of_not_mem plain, Nat.add_zero]

/-- The line of an offset is the number of line feeds before it. -/
theorem line_position {o : Nat} (within : o ≤ byteSize s.text) :
    (s.position o).line = ((utf8 s.text).take o).count feedByte := by
  rcases isEdge_or_isInside within with ⟨before, after, text, rfl⟩ | ⟨before, c, inside⟩
  · rw [position_edge text, text, take_utf8, count_utf8]
  · rw [inside.position_eq, inside.count_take]

end Source

/-- **Positions are counts.** Offsets past the end of a text count as its end. The line of an offset
is the number of line feeds among the bytes before it. Its column is the number of UTF-16 code units
since the last of them if the offset is an edge, and zero if it is inside a character. So of two edges
the later one has the later position. -/
theorem position_counts (text : List Char) :
    let s := Source.ofText text
    (∀ o, let o' := min o (byteSize text)
      (s.position o).line = ((utf8 text).take o').count feedByte ∧
      (∀ before after, text = before ++ after → byteSize before = o' →
        (s.position o).character = unitLength (before.rtakeWhile (· ≠ '\n'))) ∧
      (¬ IsEdge text o' → (s.position o).character = 0)) ∧
    ∀ o o', IsEdge text o → IsEdge text o' → o < o' → s.position o < s.position o' := by
  intro s
  refine ⟨fun o => ?_, fun o o' => Source.position_lt (s := s)⟩
  dsimp only
  have within : min o (byteSize text) ≤ byteSize text := Nat.min_le_right _ _
  have same : s.position o = s.position (min o (byteSize text)) := (s.position_min o).symm
  rw [same]
  refine ⟨Source.line_position within, ?_, ?_⟩
  · intro before after whole size
    rw [← size, Source.position_edge whole]
  · intro between
    rcases isEdge_or_isInside within with edge | ⟨before, c, inside⟩
    · exact absurd edge between
    · rw [IsInside.position_eq inside]

/-- Lines with characters of two and of four bytes. -/
def wideLines : List Char := ['é', '\n', '😀', '<']

theorem position_counts_wideLines :
    ((Source.ofText wideLines).position 99).line = 1 ∧
    ((Source.ofText wideLines).position 7).character = 2 ∧
    ((Source.ofText wideLines).position 5).character = 0 ∧
    (Source.ofText wideLines).position 3 < (Source.ofText wideLines).position 7 := by
  obtain ⟨counts, grows⟩ := position_counts wideLines
  have front : IsEdge wideLines 3 := ⟨['é', '\n'], ['😀', '<'], rfl, rfl⟩
  have back : IsEdge wideLines 7 := ⟨['é', '\n', '😀'], ['<'], rfl, rfl⟩
  have inside : IsInside wideLines 5 ['é', '\n'] '😀' := ⟨⟨['<'], rfl⟩, by decide, by decide⟩
  refine ⟨(counts 99).1.trans (by decide), ?_, (counts 5).2.2 inside.not_isEdge,
    grows 3 7 front back (by decide)⟩
  exact ((counts 7).2.1 ['é', '\n', '😀'] ['<'] rfl rfl).trans (by decide)

end Mhtml
