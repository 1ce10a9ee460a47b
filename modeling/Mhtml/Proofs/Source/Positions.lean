import Mhtml.Proofs.Source.Search

/-!
# Positions and offsets

Positions and byte offsets are converted both ways, and `position_offset_inverse`
says how far one way undoes the other. From a position and back there is one
exception: an editor may name the place between the two code units of a character,
and that is taken as the place after it. From an offset and back there is one, too:
the place after a carriage return that ends a line has a position, but no position
within the line leads there.
-/

namespace Mhtml

theorem unitSize_le_two (c : Char) : unitSize c ≤ 2 := by
  unfold unitSize
  split <;> decide

/-- Column `units` of a line is between the two code units of one of its characters. -/
def SplitsCharacter (line : List Char) (units : Nat) : Prop :=
  ∃ before c after, line = before ++ c :: after ∧ unitSize c = 2 ∧ units = unitLength before + 1

theorem SplitsCharacter.cons {line : List Char} {units : Nat} (splits : SplitsCharacter line units)
    (c : Char) : SplitsCharacter (c :: line) (unitSize c + units) := by
  obtain ⟨before, d, after, rfl, pair, rfl⟩ := splits
  exact ⟨c :: before, d, after, rfl, pair, by rw [unitLength_cons, Nat.add_assoc]⟩

/-- No character is split at the end of a whole number of characters. -/
theorem not_splitsCharacter (before after : List Char) :
    ¬ SplitsCharacter (before ++ after) (unitLength before) := by
  rintro ⟨front, c, back, same, pair, units⟩
  rcases List.append_eq_append_iff.1 same with ⟨piece, rfl, -⟩ | ⟨piece, rfl, rest⟩
  · rw [unitLength_append] at units
    omega
  · rw [unitLength_append] at units
    cases piece with
    | nil => simp at units
    | cons d piece =>
      cases rest
      rw [unitLength_cons] at units
      omega

namespace Source

/-- There is a place for every number of units up to the length of the text. -/
theorem exists_advance?_iff {offset units : Nat} {cs : List Char} :
    (∃ o, advance? offset units cs = some o) ↔ units ≤ unitLength cs := by
  induction cs generalizing offset units with
  | nil => by_cases none : units = 0 <;> simp [advance?, none]
  | cons c cs ih =>
    rw [advance?, unitLength_cons]
    by_cases none : units = 0
    · simp [none]
    · rw [if_neg none, ih]
      omega

/-- Using up the units of some text leads to its end. -/
theorem advance?_unitLength (offset : Nat) (taken left : List Char) :
    advance? offset (unitLength taken) (taken ++ left) = some (offset + byteSize taken) := by
  induction taken generalizing offset with
  | nil => cases left <;> rfl
  | cons c taken ih =>
    have pos := unitSize_pos c
    have some : unitLength (c :: taken) ≠ 0 := by
      rw [unitLength_cons]
      omega
    rw [List.cons_append, advance?, if_neg some, unitLength_cons, Nat.add_sub_cancel_left, ih,
      byteSize_cons, Nat.add_assoc]

/-- Units are used up at the end of some text, or within its last character, which has two. -/
theorem exists_of_advance?_eq_some {offset units o : Nat} {cs : List Char}
    (found : advance? offset units cs = some o) :
    ∃ taken left, cs = taken ++ left ∧ o = offset + byteSize taken ∧
      (unitLength taken = units ∨ SplitsCharacter cs units ∧ unitLength taken = units + 1) := by
  induction cs generalizing offset units with
  | nil =>
    rw [advance?] at found
    split at found
    next none =>
      cases found
      exact ⟨[], [], rfl, rfl, Or.inl none.symm⟩
    next => cases found
  | cons c cs ih =>
    rw [advance?] at found
    split at found
    next none =>
      cases found
      exact ⟨[], c :: cs, rfl, rfl, Or.inl none.symm⟩
    next some =>
      obtain ⟨taken, left, rest, place, used⟩ := ih found
      refine ⟨c :: taken, left, by rw [rest, List.cons_append], ?_, ?_⟩
      · rw [place, byteSize_cons, Nat.add_assoc]
      · have small := unitSize_le_two c
        rw [unitLength_cons]
        by_cases whole : unitSize c ≤ units
        · rcases used with exact | ⟨splits, beyond⟩
          · exact Or.inl (by omega)
          · have splits := splits.cons c
            rw [Nat.add_sub_cancel' whole] at splits
            exact Or.inr ⟨splits, by omega⟩
        · -- One unit of two is left for `c`, and none for what follows.
          have zero : units - unitSize c = 0 := by omega
          rw [zero] at used
          rcases used with exact | ⟨⟨before, d, after, -, -, units⟩, -⟩
          · refine Or.inr ⟨⟨[], c, cs, rfl, by omega, ?_⟩, by omega⟩
            rw [unitLength_nil]
            omega
          · omega

variable {s : Source} {p : Position} {o : Nat}

theorem lineText_eq {n : Nat} {l : Line} (line : s.lines[n]? = some l) : s.lineText n = l.text := by
  rw [lineText, line]

/-- A position has an offset just if its line is there and long enough. -/
theorem isSome_offset?_iff (s : Source) (p : Position) :
    (s.offset? p).isSome = true ↔ p.line ≤ s.lastLine ∧ p.character ≤ s.lineLength p.line := by
  rw [offset?_eq, Option.isSome_iff_exists, ← exists_line_iff]
  cases line : s.lines[p.line]? with
  | none => simp
  | some l =>
    rw [Option.bind_some, exists_advance?_iff, lineLength, lineText_eq line]
    simp

/-- The offset of a position is behind the text before its line and behind some text of the line: as
much as there are columns, or one column more if the position splits a character. -/
theorem exists_line_of_offset? (found : s.offset? p = some o) :
    ∃ before taken after, s.text = before ++ taken ++ after ∧ StartsLine before ∧ '\n' ∉ taken ∧
      before.count '\n' = p.line ∧ byteSize (before ++ taken) = o ∧
      (¬ SplitsCharacter (s.lineText p.line) p.character ∧ unitLength taken = p.character ∨
        SplitsCharacter (s.lineText p.line) p.character ∧ unitLength taken = p.character + 1) := by
  rw [offset?_eq] at found
  obtain ⟨l, line, advanced⟩ := Option.bind_eq_some_iff.1 found
  obtain ⟨before, starts, text, start, number⟩ := lines_getElem?_iff.1 line
  obtain ⟨taken, left, parts, rfl, used⟩ := exists_of_advance?_eq_some advanced
  obtain ⟨ending, rest⟩ := Line.first_prefix l.rest
  have whole : s.text = before ++ taken ++ (left ++ ending) := by
    rw [text, ← rest]
    show before ++ (l.text ++ ending) = _
    rw [parts]
    simp only [List.append_assoc]
  have plain : '\n' ∉ taken := by
    intro inside
    refine Line.not_mem_first l.rest ?_
    show '\n' ∈ l.text
    rw [parts]
    exact List.mem_append_left left inside
  refine ⟨before, taken, left ++ ending, whole, starts, plain, number, ?_, ?_⟩
  · rw [start, byteSize_append]
  · rw [lineText_eq line]
    refine used.imp (fun exact => ⟨?_, exact⟩) id
    rw [← exact, parts]
    exact not_splitsCharacter taken left

/-- The offset of a position is an edge, and its position is the one that was given, or one column
more if that splits a character. -/
theorem position_of_offset? (found : s.offset? p = some o) :
    IsEdge s.text o ∧
    (SplitsCharacter (s.lineText p.line) p.character ∧ s.position o = ⟨p.line, p.character + 1⟩ ∨
      ¬ SplitsCharacter (s.lineText p.line) p.character ∧ s.position o = p) := by
  obtain ⟨before, taken, after, whole, starts, plain, number, rfl, used⟩ :=
    exists_line_of_offset? found
  have there : s.position (byteSize (before ++ taken)) = ⟨p.line, unitLength taken⟩ := by
    rw [position_eq whole, Position.past_line starts plain, number]
  refine ⟨⟨before ++ taken, after, whole, rfl⟩, ?_⟩
  rw [there]
  rcases used with ⟨plainly, exact⟩ | ⟨splits, beyond⟩
  · exact Or.inr ⟨plainly, by rw [exact]⟩
  · exact Or.inl ⟨splits, by rw [beyond]⟩

end Source

/-- The offset is right after a carriage return that is the last character of its line. -/
def FollowsReturn (text : List Char) (offset : Nat) : Prop :=
  ∃ before after, text = before ++ after ∧ byteSize before = offset ∧
    before.getLast? = some '\r' ∧ EndsLine after

/-- Whether an offset is after such a carriage return is told by what stands before it in its line. -/
theorem followsReturn_iff {before line after : List Char} (starts : StartsLine before) :
    FollowsReturn (before ++ line ++ after) (byteSize (before ++ line)) ↔
      line.getLast? = some '\r' ∧ EndsLine after := by
  constructor
  · rintro ⟨front, back, same, size, last, ends⟩
    obtain ⟨rfl, rfl⟩ := append_inj_of_byteSize_eq same size.symm
    rw [List.getLast?_append] at last
    refine ⟨?_, ends⟩
    cases own : line.getLast? with
    | some c => rwa [own, Option.some_or] at last
    | none =>
      rw [own, Option.none_or] at last
      rcases starts with rfl | feed
      · cases last
      · rw [feed] at last
        exact absurd last (by decide)
  · rintro ⟨last, ends⟩
    refine ⟨before ++ line, after, rfl, rfl, ?_, ends⟩
    rw [List.getLast?_append, last, Option.some_or]

namespace Source

variable {s : Source} {o : Nat}

/-- The position of an edge leads back to it, unless it is after a carriage return that ends a
line. -/
theorem offset?_position (edge : IsEdge s.text o) :
    FollowsReturn s.text o ∧ s.offset? (s.position o) = none ∨
      ¬ FollowsReturn s.text o ∧ s.offset? (s.position o) = some o := by
  obtain ⟨front, after, text, rfl⟩ := edge
  obtain ⟨before, line, rfl, starts, plain⟩ := exists_lastLine front
  have found : s.lines[before.count '\n']? = some ⟨byteSize before, line ++ after⟩ :=
    lines_getElem?_iff.2 ⟨before, starts, by rw [text, List.append_assoc], rfl, rfl⟩
  have back : s.offset? (s.position (byteSize (before ++ line))) =
      advance? (byteSize before) (unitLength line) (Line.first (line ++ after)) := by
    rw [position_eq text, Position.past_line starts plain, offset?_eq, found]
    rfl
  rw [back, text, followsReturn_iff starts]
  by_cases returns : line.getLast? = some '\r' ∧ EndsLine after
  · refine Or.inl ⟨returns, ?_⟩
    obtain ⟨front, rfl⟩ := List.getLast?_eq_some_iff.1 returns.1
    rw [List.append_assoc, List.singleton_append,
      Line.first_return (fun inside => plain (List.mem_append_left _ inside)) returns.2]
    cases advanced : advance? (byteSize before) (unitLength (front ++ ['\r'])) front with
    | none => rfl
    | some o =>
      have le := exists_advance?_iff.1 ⟨o, advanced⟩
      have pos := unitSize_pos '\r'
      rw [unitLength_append, unitLength_cons] at le
      omega
  · refine Or.inr ⟨returns, ?_⟩
    obtain ⟨left, parts⟩ := Line.prefix_first plain returns
    rw [← parts, advance?_unitLength, byteSize_append]

end Source

/-- **Positions and offsets undo each other.** A position has an offset just if it lies within a line.
The offset is an edge of the text, and leads back to the position unless that splits a character; then
it leads to the place after the character. The position of an edge leads back to it, unless it is
right after a carriage return that ends a line; then it leads nowhere. -/
theorem position_offset_inverse (text : List Char) :
    let s := Source.ofText text
    (∀ p, (s.offset? p).isSome = true ↔ p.line ≤ s.lastLine ∧ p.character ≤ s.lineLength p.line) ∧
    (∀ p o, s.offset? p = some o → IsEdge text o ∧
      (SplitsCharacter (s.lineText p.line) p.character → s.position o = ⟨p.line, p.character + 1⟩) ∧
      (¬ SplitsCharacter (s.lineText p.line) p.character → s.position o = p)) ∧
    (∀ o, IsEdge text o →
      (FollowsReturn text o → s.offset? (s.position o) = none) ∧
      (¬ FollowsReturn text o → s.offset? (s.position o) = some o)) := by
  refine ⟨Source.isSome_offset?_iff _, fun p o found => ?_, fun o edge => ?_⟩
  · obtain ⟨edge, ⟨splits, there⟩ | ⟨whole, there⟩⟩ := Source.position_of_offset? found
    · exact ⟨edge, fun _ => there, fun whole => absurd splits whole⟩
    · exact ⟨edge, fun splits => absurd splits whole, fun _ => there⟩
  · rcases Source.offset?_position (s := .ofText text) edge with ⟨returns, back⟩ | ⟨other, back⟩
    · exact ⟨fun _ => back, fun other => absurd returns other⟩
    · exact ⟨fun returns => absurd returns other, fun _ => back⟩

/-- A line that has a character of two code units and ends with a carriage return. -/
def pairedUnits : List Char := ['a', '😀', '\r', '\n']

theorem position_offset_pairedUnits :
    (Source.ofText pairedUnits).position 5 = ⟨0, 3⟩ ∧
    (Source.ofText pairedUnits).offset? ((Source.ofText pairedUnits).position 6) = none ∧
    (Source.ofText pairedUnits).offset? ((Source.ofText pairedUnits).position 7) = some 7 := by
  obtain ⟨-, positions, offsets⟩ := position_offset_inverse pairedUnits
  have found : (Source.ofText pairedUnits).offset? ⟨0, 2⟩ = some 5 := by decide +kernel
  have splits : SplitsCharacter ((Source.ofText pairedUnits).lineText 0) 2 := by
    have line : (Source.ofText pairedUnits).lineText 0 = ['a', '😀'] := by decide +kernel
    rw [line]
    exact ⟨['a'], '😀', [], rfl, by decide, by decide⟩
  have after : FollowsReturn pairedUnits 6 :=
    ⟨['a', '😀', '\r'], ['\n'], rfl, by decide, rfl, Or.inr rfl⟩
  have edge : IsEdge pairedUnits 7 := ⟨pairedUnits, [], by simp, by decide⟩
  have other : ¬ FollowsReturn pairedUnits 7 := by
    rintro ⟨before, rest, whole, size, last, -⟩
    have parts : before ++ rest = pairedUnits ++ [] := whole.symm
    obtain ⟨rfl, -⟩ := append_inj_of_byteSize_eq parts size
    exact absurd last (by decide)
  refine ⟨(positions ⟨0, 2⟩ 5 found).2.1 splits, ?_, (offsets 7 edge).2 other⟩
  exact (offsets 6 ⟨['a', '😀', '\r'], ['\n'], rfl, by decide⟩).1 after

end Mhtml
