import Mhtml.Text.Blank
import Mhtml.Text.Search
import Mhtml.Proofs.Source.Search

/-!
# A text further down

Line feeds before a text move it down without changing it. `lowered k text` has
`k` of them, each of one byte, so every place of the text is `k` bytes and `k`
lines further on and has the column it had. `Source.Lowers` says so of two
sources, and `Source.lowers_ofText` that it holds of a text and the text moved
down. A word that starts with a visible character is found where it was.
-/

namespace Mhtml

/-- The text after `k` line feeds. -/
def lowered (k : Nat) (text : List Char) : List Char :=
  List.replicate k '\n' ++ text

theorem lowered_succ (k : Nat) (text : List Char) :
    lowered (k + 1) text = '\n' :: lowered k text := rfl

/-- The position `k` lines further down. -/
def Position.down (k : Nat) (p : Position) : Position :=
  ⟨p.line + k, p.character⟩

/-- The range `k` lines further down. -/
def Range.down (k : Nat) (r : Range) : Range :=
  ⟨r.start.down k, r.stop.down k⟩

/-- The span `k` bytes further on. -/
def Span.shift (k : Nat) (s : Span) : Span :=
  ⟨s.start + k, s.stop + k⟩

namespace Span

@[simp] theorem start_shift (k : Nat) (s : Span) : (s.shift k).start = s.start + k := rfl

@[simp] theorem stop_shift (k : Nat) (s : Span) : (s.shift k).stop = s.stop + k := rfl

@[simp] theorem within_shift {k : Nat} {s t : Span} :
    (s.shift k).Within (t.shift k) ↔ s.Within t := by
  simp [within_iff]

end Span

theorem lowered_append (k : Nat) (before after : List Char) :
    lowered k (before ++ after) = lowered k before ++ after :=
  (List.append_assoc _ _ _).symm

theorem byteSize_lowered (k : Nat) (text : List Char) :
    byteSize (lowered k text) = byteSize text + k := by
  induction k with
  | zero => rfl
  | succ k ih =>
    have feed : '\n'.utf8Size = 1 := rfl
    rw [lowered_succ, byteSize_cons, ih, feed]
    omega

theorem count_lowered (k : Nat) (text : List Char) :
    (lowered k text).count '\n' = text.count '\n' + k := by
  rw [lowered, List.count_append, List.count_replicate_self, Nat.add_comm]

/-- What is inside a character stays inside it. -/
theorem IsInside.lowered {text before : List Char} {o : Nat} {c : Char}
    (inside : IsInside text o before c) (k : Nat) :
    IsInside (lowered k text) (o + k) (lowered k before) c := by
  obtain ⟨⟨after, whole⟩, start, stop⟩ := inside
  refine ⟨⟨after, by rw [whole, lowered_append]⟩, ?_, ?_⟩
  · rw [byteSize_lowered]
    omega
  · rw [byteSize_lowered]
    omega

namespace Position

theorem past_down (k : Nat) (p : Position) (cs : List Char) :
    (p.down k).past cs = (p.past cs).down k := by
  induction cs generalizing p with
  | nil => rfl
  | cons c cs ih =>
    have next : (p.down k).after c = (p.after c).down k := by
      unfold after
      split
      · simp only [down, Nat.add_right_comm]
      · rfl
    rw [past, List.foldl_cons, next]
    exact ih (p.after c)

/-- Each line feed before a text leads one line down. -/
theorem past_lowered (line k : Nat) (text : List Char) :
    past ⟨line, 0⟩ (lowered k text) = (past ⟨line, 0⟩ text).down k := by
  induction k generalizing line with
  | zero => rfl
  | succ k ih =>
    have below : past ⟨line + 1, 0⟩ text = (past ⟨line, 0⟩ text).down 1 := past_down 1 ⟨line, 0⟩ text
    show past ⟨line + 1, 0⟩ (lowered k text) = _
    rw [ih, below, down, down, down, Nat.add_assoc, Nat.add_comm 1 k]

end Position

/-! ## Lines -/

/-- The line `k` bytes further on, with the same text. -/
def Line.shift (k : Nat) (l : Line) : Line :=
  ⟨l.start + k, l.rest⟩

namespace Line

theorem following_add (k offset : Nat) (cs : List Char) :
    following (offset + k) cs = (following offset cs).map (shift k) := by
  induction cs generalizing offset with
  | nil => rfl
  | cons c cs ih =>
    have next := ih (offset + c.utf8Size)
    rw [Nat.add_right_comm] at next
    simp only [following, next]
    split
    · simp only [List.map_cons, shift, Nat.add_right_comm]
    · rfl

/-- Behind the line feeds stand the lines of the text. -/
theorem getElem?_following_lowered (offset k n : Nat) (text : List Char) :
    (⟨offset, lowered k text⟩ :: following offset (lowered k text))[n + k]? =
      (⟨offset + k, text⟩ :: following (offset + k) text)[n]? := by
  induction k generalizing offset with
  | zero => rfl
  | succ k ih =>
    have first : following offset (lowered (k + 1) text) =
        ⟨offset + 1, lowered k text⟩ :: following (offset + 1) (lowered k text) := rfl
    rw [first, ← Nat.add_assoc, List.getElem?_cons_succ, ih (offset + 1), Nat.add_right_comm,
      Nat.add_assoc]

end Line

/-! ## Sources -/

namespace Source

@[simp] theorem text_ofText (text : List Char) : (ofText text).text = text := rfl

/-- The places of `s` are those of `s'`, `k` bytes further on and `k` lines further down, and the same
brackets open there. -/
structure Lowers (k : Nat) (s s' : Source) : Prop where
  position : ∀ o, s'.position (o + k) = (s.position o).down k
  holds : ∀ span, s'.holds '<' (span.shift k) = s.holds '<' span

theorem Lowers.refl (s : Source) : Lowers 0 s s where
  position _ := rfl
  holds _ := rfl

theorem Lowers.range {k : Nat} {s s' : Source} (lowers : Lowers k s s') (span : Span) :
    s'.range (span.shift k) = (s.range span).down k := by
  simp only [Source.range, Span.start_shift, Span.stop_shift, lowers.position, Range.down]

variable (k : Nat) (text : List Char)

theorem rest?_lowered (o : Nat) :
    (ofText (lowered k text)).rest? (o + k) = (ofText text).rest? o := by
  have feeds : byteSize (List.replicate k '\n') = k := by
    simpa [lowered] using byteSize_lowered k []
  have found := getElem?_rests (s := ofText (lowered k text)) rfl o
  rw [feeds, Nat.add_comm k o] at found
  rw [rest?, rest?, found, ← Array.getElem?_toList, (ofText text).rests_eq, text_ofText]

theorem position_lowered (o : Nat) :
    (ofText (lowered k text)).position (o + k) = ((ofText text).position o).down k := by
  rw [← position_min, ← position_min _ o, text_ofText, text_ofText, byteSize_lowered,
    Nat.add_min_add_right]
  rcases isEdge_or_isInside (Nat.min_le_right o (byteSize text)) with
    ⟨before, after, whole, size⟩ | ⟨before, c, inside⟩
  · have whole' : (ofText (lowered k text)).text = lowered k before ++ after := by
      rw [text_ofText, whole, lowered_append]
    rw [← size, ← byteSize_lowered, position_eq whole', position_eq whole, Position.past_lowered]
  · have moved := inside.lowered k
    rw [IsInside.position_eq (s := ofText (lowered k text)) moved,
      IsInside.position_eq (s := ofText text) inside, count_lowered]
    rfl

theorem holds_lowered (c : Char) (span : Span) :
    (ofText (lowered k text)).holds c (span.shift k) = (ofText text).holds c span := by
  simp only [holds, isSliceable, Span.start_shift, Span.stop_shift, rest?_lowered,
    Nat.add_le_add_iff_right, Nat.add_sub_add_right]

/-- A text moved down has everything in its place. -/
theorem lowers_ofText : Lowers k (ofText text) (ofText (lowered k text)) where
  position := position_lowered k text
  holds := holds_lowered k text '<'

theorem lines_lowered (n : Nat) :
    (ofText (lowered k text)).lines[n + k]? = (ofText text).lines[n]?.map (Line.shift k) := by
  have all : ⟨0 + k, text⟩ :: Line.following (0 + k) text =
      (⟨0, text⟩ :: Line.following 0 text).map (Line.shift k) := by
    rw [Line.following_add]
    rfl
  rw [← Array.getElem?_toList, ← Array.getElem?_toList, lines_eq, lines_eq, text_ofText,
    text_ofText, Line.getElem?_following_lowered, all, List.getElem?_map]

theorem lineText_lowered (n : Nat) :
    (ofText (lowered k text)).lineText (n + k) = (ofText text).lineText n := by
  rw [lineText, lineText, lines_lowered]
  cases (ofText text).lines[n]? <;> rfl

theorem lastLine_lowered :
    (ofText (lowered k text)).lastLine = (ofText text).lastLine + k := by
  -- A line is there in one text just if the line that it becomes is there in the other.
  have same : ∀ n, n + k ≤ (ofText (lowered k text)).lastLine ↔ n ≤ (ofText text).lastLine := by
    intro n
    rw [← exists_line_iff, ← exists_line_iff, lines_lowered]
    cases (ofText text).lines[n]? <;> simp
  have first := (same 0).2 (Nat.zero_le _)
  have last := (same _).2 (Nat.le_refl (ofText text).lastLine)
  have back := (same ((ofText (lowered k text)).lastLine - k)).1 (by omega)
  omega

end Source

/-- Line feeds before a document are no part of it. -/
theorem trimBoth_lowered (k : Nat) (text : List Char) :
    trimBoth isMargin (lowered k text) = trimBoth isMargin text := by
  have margin : isMargin '\n' = true := by decide
  induction k with
  | zero => rfl
  | succ k ih => rw [lowered_succ, trimBoth, List.dropWhile_cons_of_pos margin, ← trimBoth, ih]

/-! ## Words -/

theorem findWordFrom?_add (word : List Char) (k offset : Nat) (cs : List Char) :
    findWordFrom? word (offset + k) cs = (findWordFrom? word offset cs).map (· + k) := by
  induction cs generalizing offset with
  | nil =>
    unfold findWordFrom?
    split <;> rfl
  | cons c cs ih =>
    unfold findWordFrom?
    split
    · rfl
    · rw [Nat.add_right_comm, ih]

/-- A tag is found where it was, since it does not start with a line feed. -/
theorem findWord?_lowered (word : List Char) (k : Nat) (text : List Char) :
    findWord? ('<' :: word) (lowered k text) = (findWord? ('<' :: word) text).map (· + k) := by
  have skips : ∀ offset, findWordFrom? ('<' :: word) offset (lowered k text) =
      findWordFrom? ('<' :: word) (offset + k) text := by
    induction k with
    | zero => exact fun offset => rfl
    | succ k ih =>
      intro offset
      have other : ('<' :: word).isPrefixOf ('\n' :: lowered k text) = false := rfl
      have feed : '\n'.utf8Size = 1 := rfl
      rw [lowered_succ, findWordFrom?, other, if_neg (by decide), ih, feed, Nat.add_assoc,
        Nat.add_comm 1 k]
  rw [findWord?, skips, findWordFrom?_add, findWord?]

theorem findWordFrom?_eq_none_iff {word : List Char} {offset : Nat} {cs : List Char} :
    findWordFrom? word offset cs = none ↔ ¬ word <:+: cs := by
  induction cs generalizing offset with
  | nil => simp [findWordFrom?]
  | cons c cs ih =>
    rw [findWordFrom?, List.infix_cons_iff, ← List.isPrefixOf_iff_prefix]
    split
    next here => simp [here]
    next other => simp [other, ih]

/-- A word is not found just if it stands nowhere in the text. -/
theorem findWord?_eq_none_iff {word text : List Char} :
    findWord? word text = none ↔ ¬ word <:+: text :=
  findWordFrom?_eq_none_iff

end Mhtml
