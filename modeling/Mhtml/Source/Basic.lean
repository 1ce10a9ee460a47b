import Mhtml.Text.Measure
import Mhtml.Span
import Mhtml.Source.Position

/-!
# Source texts

A source is a text with two tables over it. `lines` has an entry for every line, with
the byte offset at which it starts. `rests` has an entry for every byte offset from
the start to the end of the text: what is left of the text there, or nothing if the
offset is inside a character. A slice of the text is cut out by looking up its two
ends. Both tables are determined by the text, which the type records.

The position of an offset is found by searching the lines for the first one that
starts after it and measuring the slice from the start of the line before. A line
ends at a line feed; a carriage return before it is no part of the line's text. This is
the line index of section F of the specification.
-/

namespace Mhtml

/-- What is left of a text at each of its byte offsets, the end included, and nothing inside a
character. -/
def restsOf : List Char → List (Option (List Char))
  | [] => [some []]
  | c :: cs => some (c :: cs) :: (List.replicate (c.utf8Size - 1) none ++ restsOf cs)

/-- Appends `count` empty entries to a table. -/
def pushNone (table : Array (Option (List Char))) : (count : Nat) → Array (Option (List Char))
  | 0 => table
  | count + 1 => pushNone (table.push none) count

/-- Appends what is left of a text at each of its byte offsets to a table. -/
def tabulateRests (table : Array (Option (List Char))) : List Char → Array (Option (List Char))
  | [] => table.push (some [])
  | cs@(c :: rest) => tabulateRests (pushNone (table.push (some cs)) (c.utf8Size - 1)) rest

theorem toList_pushNone (table : Array (Option (List Char))) (count : Nat) :
    (pushNone table count).toList = table.toList ++ List.replicate count none := by
  induction count generalizing table with
  | zero => simp [pushNone]
  | succ count ih => simp [pushNone, ih, List.replicate_succ]

theorem toList_tabulateRests (table : Array (Option (List Char))) (cs : List Char) :
    (tabulateRests table cs).toList = table.toList ++ restsOf cs := by
  induction cs generalizing table with
  | nil => simp [tabulateRests, restsOf]
  | cons c cs ih => simp [tabulateRests, restsOf, ih, toList_pushNone]

theorem length_restsOf (cs : List Char) : (restsOf cs).length = byteSize cs + 1 := by
  induction cs with
  | nil => rfl
  | cons c cs ih =>
    have := c.utf8Size_pos
    simp only [restsOf, List.length_cons, List.length_append, List.length_replicate, ih,
      byteSize_cons]
    omega

/-- A line of a text. -/
structure Line where
  /-- The byte offset at which it starts. -/
  start : Nat
  /-- The text from its start on, later lines included. -/
  rest : List Char
deriving DecidableEq, Repr

namespace Line

/-- The lines that start after a line feed of a text, the text starting at `offset`. -/
def following (offset : Nat) : List Char → List Line
  | [] => []
  | c :: cs =>
    if c = '\n' then ⟨offset + c.utf8Size, cs⟩ :: following (offset + c.utf8Size) cs
    else following (offset + c.utf8Size) cs

/-- Appends the lines that start after a line feed to a table. -/
def tabulate (table : Array Line) (offset : Nat) : List Char → Array Line
  | [] => table
  | c :: cs =>
    if c = '\n' then tabulate (table.push ⟨offset + c.utf8Size, cs⟩) (offset + c.utf8Size) cs
    else tabulate table (offset + c.utf8Size) cs

theorem toList_tabulate (table : Array Line) (offset : Nat) (cs : List Char) :
    (tabulate table offset cs).toList = table.toList ++ following offset cs := by
  induction cs generalizing table offset with
  | nil => simp [tabulate, following]
  | cons c cs ih =>
    simp only [tabulate, following]
    split <;> simp [ih]

/-- The text of the first line of a text without what ends it. -/
def first (cs : List Char) : List Char :=
  let content := cs.takeWhile (· ≠ '\n')
  if content.getLast? = some '\r' then content.dropLast else content

/-- Whether the first line of a text is over at its head: nothing is left of it but what ends
it. -/
def isOver : List Char → Bool
  | [] => true
  | '\n' :: _ => true
  | ['\r'] => true
  | '\r' :: '\n' :: _ => true
  | _ => false

/-- The text of the line without what ends it. -/
def text (l : Line) : List Char :=
  first l.rest

theorem first_cons (c : Char) (cs : List Char) :
    first (c :: cs) = if isOver (c :: cs) then [] else c :: first cs := by
  by_cases hc : c = '\n'
  · subst hc
    simp [first, isOver]
  · cases cs with
    | nil => by_cases hr : c = '\r' <;> simp [first, isOver, hc, hr]
    | cons d ds =>
      by_cases hd : d = '\n'
      · subst hd
        by_cases hr : c = '\r' <;> simp [first, isOver, hc, hr]
      · have hov : isOver (c :: d :: ds) = false := by
          unfold isOver
          split <;> simp_all
        simp [first, hov, hc, hd]
        split <;> rfl

end Line

/-- A text with the tables that locate places in it. -/
structure Source where
  /-- The text itself. -/
  text : List Char
  /-- What is left of the text at each byte offset, the end included. -/
  rests : Array (Option (List Char))
  /-- The lines in order. -/
  lines : Array Line
  /-- The rests are those of the text. -/
  rests_eq : rests.toList = restsOf text
  /-- The lines are those of the text. -/
  lines_eq : lines.toList = ⟨0, text⟩ :: Line.following 0 text

namespace Source

/-- The source of a text. -/
def ofText (text : List Char) : Source where
  text
  rests := tabulateRests #[] text
  lines := Line.tabulate #[⟨0, text⟩] 0 text
  rests_eq := by simp [toList_tabulateRests]
  lines_eq := by simp [Line.toList_tabulate]

/-- A source is determined by its text. -/
theorem eq_ofText (s : Source) : s = ofText s.text := by
  obtain ⟨text, rests, lines, hr, hl⟩ := s
  have rests_eq : rests = (ofText text).rests :=
    Array.toList_inj.1 (hr.trans (ofText text).rests_eq.symm)
  have lines_eq : lines = (ofText text).lines :=
    Array.toList_inj.1 (hl.trans (ofText text).lines_eq.symm)
  subst rests_eq lines_eq
  rfl

/-- The number of bytes of the text. -/
def size (s : Source) : Nat :=
  s.rests.size - 1

/-- The number of the last line; a final line feed starts an empty one. -/
def lastLine (s : Source) : Nat :=
  s.lines.size - 1

/-- The text of a line, empty when there is no such line. -/
def lineText (s : Source) (line : Nat) : List Char :=
  match s.lines[line]? with
  | some l => l.text
  | none => []

/-- The length of a line in UTF-16 code units. -/
def lineLength (s : Source) (line : Nat) : Nat :=
  unitLength (s.lineText line)

/-- The byte offset, counted from `offset`, at which `units` UTF-16 code units of a text are
used up. The second unit of a character counts as the place after it. -/
def advance? (offset units : Nat) : List Char → Option Nat
  | [] => if units = 0 then some offset else none
  | c :: cs =>
    if units = 0 then some offset else advance? (offset + c.utf8Size) (units - unitSize c) cs

/-- Like `advance?`, but within the first line of a text. -/
def advanceInLine? (offset units : Nat) : List Char → Option Nat
  | [] => if units = 0 then some offset else none
  | cs@(c :: rest) =>
    if units = 0 then some offset
    else if Line.isOver cs then none
    else advanceInLine? (offset + c.utf8Size) (units - unitSize c) rest

theorem advanceInLine?_eq (offset units : Nat) (cs : List Char) :
    advanceInLine? offset units cs = advance? offset units (Line.first cs) := by
  induction cs generalizing offset units with
  | nil => rfl
  | cons c cs ih =>
    rw [advanceInLine?, Line.first_cons]
    by_cases h : units = 0 <;> by_cases hov : Line.isOver (c :: cs) <;>
      simp [advance?, h, hov, ih]

/-- The byte offset of a position, if the position lies within the text. -/
def offset? (s : Source) (p : Position) : Option Nat :=
  s.lines[p.line]?.bind fun l => advanceInLine? l.start p.character l.rest

/-- The offset of a position is found within the text of its line. -/
theorem offset?_eq (s : Source) (p : Position) :
    s.offset? p = s.lines[p.line]?.bind fun l => advance? l.start p.character l.text := by
  simp only [offset?, advanceInLine?_eq, Line.text]

/-- What is left of the text at a byte offset, if the offset is at the edge of a character. -/
def rest? (s : Source) (offset : Nat) : Option (List Char) :=
  s.rests[offset]?.join

/-- Whether both ends of a span are at edges of characters, in order. -/
def isSliceable (s : Source) (span : Span) : Bool :=
  span.start ≤ span.stop && (s.rest? span.start).isSome && (s.rest? span.stop).isSome

/-- Takes characters off the front of a text until they make up `bytes` bytes. -/
def takeBytes (taken : List Char) (bytes : Nat) : List Char → List Char
  | [] => taken.reverse
  | c :: cs => if bytes = 0 then taken.reverse else takeBytes (c :: taken) (bytes - c.utf8Size) cs

/-- The text at a span, if its ends are at edges of characters. -/
def slice? (s : Source) (span : Span) : Option (List Char) :=
  if s.isSliceable span then
    (s.rest? span.start).map (takeBytes [] (span.stop - span.start))
  else none

/-- The number of the first line that starts after an offset, or the number of lines if there is
none. -/
def firstLineAfter (s : Source) (offset : Nat) : Nat :=
  s.lines.toList.findIdx (offset < ·.start)

/-- The position of a byte offset, offsets past the end counting as the end. The column is zero if
the text from the start of the line to the offset cannot be cut out. -/
def position (s : Source) (offset : Nat) : Position :=
  let offset := min offset s.size
  let line := s.firstLineAfter offset - 1
  let start := s.lines[line]?.elim 0 Line.start
  ⟨line, ((s.slice? ⟨start, offset⟩).map unitLength).getD 0⟩

/-- The positions of the two ends of a span. -/
def range (s : Source) (span : Span) : Range :=
  ⟨s.position span.start, s.position span.stop⟩

/-- Whether `c` stands in the first `bytes` bytes of a text. -/
def occursWithin (c : Char) (bytes : Nat) : List Char → Bool
  | [] => false
  | d :: cs => bytes != 0 && (c == d || occursWithin c (bytes - d.utf8Size) cs)

/-- Whether `c` stands in the text at a span whose ends are at edges of characters. The text is
read no further than to the first such character. -/
def holds (s : Source) (c : Char) (span : Span) : Bool :=
  s.isSliceable span && (s.rest? span.start).any (occursWithin c (span.stop - span.start))

theorem contains_takeBytes (c : Char) (taken : List Char) (bytes : Nat) (cs : List Char) :
    (takeBytes taken bytes cs).contains c = (taken.contains c || occursWithin c bytes cs) := by
  induction cs generalizing taken bytes with
  | nil => simp [takeBytes, occursWithin]
  | cons d cs ih =>
    by_cases h : bytes = 0
    · simp [takeBytes, occursWithin, h]
    · have hb : (bytes != 0) = true := by simpa using h
      rw [takeBytes, if_neg h, ih, occursWithin, hb, List.contains_cons, Bool.true_and,
        Bool.or_assoc, Bool.or_left_comm]

/-- A span holds a character just if its text does. -/
theorem holds_eq (s : Source) (c : Char) (span : Span) :
    s.holds c span = (s.slice? span).any (·.contains c) := by
  cases h : s.isSliceable span with
  | false => simp [holds, slice?, h]
  | true =>
    cases hr : s.rest? span.start with
    | none => simp [holds, slice?, h, hr]
    | some cs =>
      simp only [holds, slice?, h, hr, Option.any_some, Option.map_some, if_true, Bool.true_and,
        contains_takeBytes, List.contains_nil, Bool.false_or]

theorem size_eq (s : Source) : s.size = byteSize s.text := by
  have h := congrArg List.length s.rests_eq
  rw [Array.length_toList, length_restsOf] at h
  simp only [size]
  omega

end Source

end Mhtml
