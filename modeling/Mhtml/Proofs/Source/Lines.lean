import Mhtml.Proofs.Text.Slices

/-!
# Lines of a text

A line starts at the head of a text or after a line feed. `Source.lines_getElem?_iff`
says which line has which number, in terms of the text before it. What a line
holds is a matter of what ends it: a line feed is never part of it, and a
carriage return is unless it is the last character before a line feed or before
the end of the text.
-/

namespace Mhtml

/-- A line starts after this text. -/
def StartsLine (before : List Char) : Prop :=
  before = [] ∨ before.getLast? = some '\n'

/-- A line ends before this text. -/
def EndsLine (after : List Char) : Prop :=
  after = [] ∨ after.head? = some '\n'

/-- Every text is cut in two where its last line starts. -/
theorem exists_lastLine (cs : List Char) :
    ∃ before line, cs = before ++ line ∧ StartsLine before ∧ '\n' ∉ line := by
  induction cs with
  | nil => exact ⟨[], [], rfl, Or.inl rfl, by simp⟩
  | cons c cs ih =>
    obtain ⟨before, line, rfl, starts, plain⟩ := ih
    rcases starts with rfl | ends
    · by_cases feed : c = '\n'
      · subst feed
        exact ⟨['\n'], line, rfl, Or.inr rfl, plain⟩
      · exact ⟨[], c :: line, rfl, Or.inl rfl, by simp [Ne.symm feed, plain]⟩
    · refine ⟨c :: before, line, rfl, Or.inr ?_, plain⟩
      rw [List.getLast?_cons, ends, Option.getD_some]

/-- A text that starts a line and has no line feed is empty. -/
theorem StartsLine.eq_nil {before : List Char} (starts : StartsLine before)
    (none : before.count '\n' = 0) : before = [] := by
  rcases starts with empty | ends
  · exact empty
  · exact absurd (List.mem_of_getLast? ends) (List.count_eq_zero.1 none)

theorem startsLine_cons_iff {c : Char} {before : List Char} :
    StartsLine (c :: before) ↔ StartsLine before ∧ (before = [] → c = '\n') := by
  cases before with
  | nil => simp [StartsLine]
  | cons d before => simp [StartsLine, List.getLast?_cons_cons]

namespace Position

/-- The position after `c`, when `c` stands at `p`. -/
def after (p : Position) (c : Char) : Position :=
  if c = '\n' then ⟨p.line + 1, 0⟩ else ⟨p.line, p.character + unitSize c⟩

/-- The position after some text that starts at `p`. -/
def past (p : Position) (cs : List Char) : Position :=
  cs.foldl after p

theorem past_append (p : Position) (before after : List Char) :
    p.past (before ++ after) = (p.past before).past after :=
  List.foldl_append

/-- Each line feed leads to the next line. -/
theorem line_past (p : Position) (cs : List Char) :
    (p.past cs).line = p.line + cs.count '\n' := by
  induction cs generalizing p with
  | nil => rfl
  | cons c cs ih =>
    rw [past, List.foldl_cons]
    show ((p.after c).past cs).line = _
    rw [ih]
    by_cases feed : c = '\n'
    · have next : (p.after c).line = p.line + 1 := by rw [Position.after, if_pos feed]
      rw [next, feed, List.count_cons_self]
      omega
    · have same : (p.after c).line = p.line := by rw [Position.after, if_neg feed]
      rw [same, List.count_cons_of_ne feed]

/-- Within a line the column grows with what is passed. -/
theorem past_of_not_mem {line : List Char} (plain : '\n' ∉ line) (p : Position) :
    p.past line = ⟨p.line, p.character + unitLength line⟩ := by
  induction line generalizing p with
  | nil => rfl
  | cons c line ih =>
    rw [List.mem_cons, not_or] at plain
    rw [past, List.foldl_cons]
    show (p.after c).past line = _
    rw [ih plain.2, Position.after, if_neg (Ne.symm plain.1), unitLength_cons, Nat.add_assoc]

/-- The position at the start of a line has column zero. -/
theorem past_of_startsLine {before : List Char} (starts : StartsLine before) :
    Position.past ⟨0, 0⟩ before = ⟨before.count '\n', 0⟩ := by
  rcases starts with rfl | ends
  · rfl
  · obtain ⟨front, rfl⟩ := List.getLast?_eq_some_iff.1 ends
    have line := line_past ⟨0, 0⟩ front
    rw [Nat.zero_add] at line
    rw [past_append, List.count_append, ← line]
    rfl

/-- A position is told by the line it is in and by what stands before it in that line. -/
theorem past_line {before line : List Char} (starts : StartsLine before) (plain : '\n' ∉ line) :
    Position.past ⟨0, 0⟩ (before ++ line) = ⟨before.count '\n', unitLength line⟩ := by
  rw [past_append, past_of_startsLine starts, past_of_not_mem plain, Nat.zero_add]

end Position

namespace Line

/-- Nothing stands before the first line. -/
theorem getElem?_zero_iff {offset : Nat} {cs : List Char} {l : Line} {later : List Line} :
    (⟨offset, cs⟩ :: later)[0]? = some l ↔
      ∃ before, StartsLine before ∧ cs = before ++ l.rest ∧ l.start = offset + byteSize before ∧
        before.count '\n' = 0 := by
  rw [List.getElem?_cons_zero, Option.some.injEq]
  constructor
  · rintro rfl
    exact ⟨[], Or.inl rfl, rfl, rfl, rfl⟩
  · rintro ⟨before, starts, rest, start, none⟩
    cases starts.eq_nil none
    rw [List.nil_append] at rest
    rw [byteSize_nil, Nat.add_zero] at start
    rw [rest, ← start]

/-- The lines of a text in order, each by what stands before it. -/
theorem getElem?_following_iff {offset n : Nat} {cs : List Char} {l : Line} :
    (⟨offset, cs⟩ :: following offset cs)[n]? = some l ↔
      ∃ before, StartsLine before ∧ cs = before ++ l.rest ∧ l.start = offset + byteSize before ∧
        before.count '\n' = n := by
  induction cs generalizing offset n with
  | nil =>
    cases n with
    | zero => exact getElem?_zero_iff
    | succ n =>
      simp only [following, List.getElem?_cons_succ, List.getElem?_nil, reduceCtorEq, false_iff]
      rintro ⟨before, -, empty, -, count⟩
      rw [(List.append_eq_nil_iff.1 empty.symm).1] at count
      cases count
  | cons c cs ih =>
    cases n with
    | zero => exact getElem?_zero_iff
    | succ n =>
      -- The lines after the first one are those of the rest, if what follows `c` is one of them.
      have later : (following offset (c :: cs))[n]? = some l ↔
          ∃ before, (StartsLine before ∧ (before = [] → c = '\n')) ∧ cs = before ++ l.rest ∧
            l.start = offset + c.utf8Size + byteSize before ∧ (c :: before).count '\n' = n + 1 := by
        by_cases feed : c = '\n'
        · rw [following, if_pos feed, ih]
          simp [feed]
        · have shifted := @ih (offset + c.utf8Size) (n + 1)
          rw [List.getElem?_cons_succ] at shifted
          rw [following, if_neg feed, shifted]
          refine exists_congr fun before => ?_
          rw [List.count_cons_of_ne feed]
          constructor
          · rintro ⟨starts, rest, start, count⟩
            refine ⟨⟨starts, ?_⟩, rest, start, count⟩
            rintro rfl
            cases count
          · rintro ⟨⟨starts, -⟩, rest, start, count⟩
            exact ⟨starts, rest, start, count⟩
      rw [List.getElem?_cons_succ, later]
      constructor
      · rintro ⟨before, starts, rfl, start, count⟩
        refine ⟨c :: before, startsLine_cons_iff.2 starts, rfl, ?_, count⟩
        rw [start, byteSize_cons, Nat.add_assoc]
      · rintro ⟨before, starts, whole, start, count⟩
        cases before with
        | nil => cases count
        | cons d before =>
          rw [List.cons_append, List.cons.injEq] at whole
          obtain ⟨rfl, rest⟩ := whole
          refine ⟨before, startsLine_cons_iff.1 starts, rest, ?_, count⟩
          rw [start, byteSize_cons, Nat.add_assoc]

/-- The first line of a text is the head of it. -/
theorem first_prefix (cs : List Char) : first cs <+: cs := by
  unfold first
  dsimp only
  split
  · exact (List.dropLast_prefix _).trans (List.takeWhile_prefix _)
  · exact List.takeWhile_prefix _

theorem not_mem_first (cs : List Char) : '\n' ∉ first cs := by
  have plain : '\n' ∉ cs.takeWhile (· ≠ '\n') := by
    intro found
    simpa using List.all_eq_true.1 List.all_takeWhile '\n' found
  unfold first
  dsimp only
  split
  · exact fun found => plain ((List.dropLast_prefix _).subset found)
  · exact plain

/-- The first line of a text, told by a head of it without a line feed. -/
theorem first_append {line : List Char} (plain : '\n' ∉ line) (after : List Char) :
    first (line ++ after) =
      let content := line ++ after.takeWhile (· ≠ '\n')
      if content.getLast? = some '\r' then content.dropLast else content := by
  have all : ∀ c ∈ line, decide (c ≠ '\n') = true := by
    intro c found
    refine decide_eq_true ?_
    rintro rfl
    exact plain found
  rw [first, List.takeWhile_append_of_pos all]

theorem takeWhile_eq_nil_iff {after : List Char} :
    after.takeWhile (· ≠ '\n') = [] ↔ EndsLine after := by
  cases after with
  | nil => simp [EndsLine]
  | cons c after => simp [EndsLine, List.takeWhile_cons]

/-- A carriage return at the end of a line is no part of it. -/
theorem first_return {line after : List Char} (plain : '\n' ∉ line) (ends : EndsLine after) :
    first (line ++ '\r' :: after) = line := by
  have content : ('\r' :: after).takeWhile (· ≠ '\n') = ['\r'] := by
    rw [List.takeWhile_cons_of_pos (by decide), takeWhile_eq_nil_iff.2 ends]
  rw [first_append plain, content]
  simp

/-- Whatever else stands in a line is part of it. -/
theorem prefix_first {line after : List Char} (plain : '\n' ∉ line)
    (other : ¬ (line.getLast? = some '\r' ∧ EndsLine after)) : line <+: first (line ++ after) := by
  rw [first_append plain]
  dsimp only
  cases more : after.takeWhile (· ≠ '\n') with
  | nil =>
    have ends := takeWhile_eq_nil_iff.1 more
    have plainEnd : (line ++ []).getLast? ≠ some '\r' := by
      rw [List.append_nil]
      exact fun last => other ⟨last, ends⟩
    rw [if_neg plainEnd]
    exact List.prefix_append line []
  | cons c cs =>
    split
    · rw [List.dropLast_append_of_ne_nil (List.cons_ne_nil c cs)]
      exact List.prefix_append line _
    · exact List.prefix_append line _

end Line

namespace Source

variable {s : Source} {n : Nat}

/-- Line `n` starts after `n` line feeds. -/
theorem lines_getElem?_iff {l : Line} :
    s.lines[n]? = some l ↔ ∃ before, StartsLine before ∧ s.text = before ++ l.rest ∧
      l.start = byteSize before ∧ before.count '\n' = n := by
  rw [← Array.getElem?_toList, s.lines_eq, Line.getElem?_following_iff]
  simp only [Nat.zero_add]

/-- There is a line for each number up to the last one. -/
theorem exists_line_iff : (∃ l, s.lines[n]? = some l) ↔ n ≤ s.lastLine := by
  have some : 0 < s.lines.size := by
    rw [← Array.length_toList, s.lines_eq, List.length_cons]
    exact Nat.succ_pos _
  rw [lastLine]
  constructor
  · rintro ⟨l, found⟩
    have := (Array.getElem?_eq_some_iff.1 found).1
    omega
  · intro le
    exact ⟨_, Array.getElem?_eq_getElem (by omega)⟩

end Source

end Mhtml
