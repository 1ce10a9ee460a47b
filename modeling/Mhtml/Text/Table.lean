import Std.Data.TreeMap
import Mhtml.Text.Pieces

/-!
# Tables of characters

What holds of many characters is written down as words with blanks between them.
A word is a range of code points in hexadecimal digits, `first-last` or a single
one; where other characters take the place of a range, an equals sign and their
code points follow, with plus signs between them. A table finds the range of a
character.
-/

namespace Mhtml

/-- The words of a text, with blanks and line breaks between them. -/
def tableWords (text : String) : List (List Char) :=
  (pieces '\n' text.toList).flatMap fun line => (pieces ' ' line).filter (!·.isEmpty)

/-- A range of code points, ends included. -/
structure CharRange where
  /-- The lowest code point. -/
  first : Nat
  /-- The highest code point. -/
  last : Nat
deriving DecidableEq, Repr

/-- Reads a range: two code points with a hyphen between them, or a single one. -/
def CharRange.read? (word : List Char) : Option CharRange :=
  match (pieces '-' word).mapM (numberOfDigits? 16) with
  | some [point] => some { first := point, last := point }
  | some [first, last] => some { first, last }
  | _ => none

example : CharRange.read? "41-5A".toList = some { first := 0x41, last := 0x5A } := by decide

/-- A range of characters and what takes the place of its first one. -/
structure Replacement where
  /-- The characters that are replaced. -/
  range : CharRange
  /-- What replaces the first of them. -/
  image : List Char
deriving DecidableEq, Repr

namespace Replacement

/-- Reads a range, an equals sign and the code points of an image. -/
def read? (word : List Char) : Option Replacement :=
  match pieces '=' word with
  | [range, image] => do
    let range ← CharRange.read? range
    let points ← (pieces '+' image).mapM (numberOfDigits? 16)
    return { range, image := points.map Char.ofNat }
  | _ => none

/-- What replaces a character of the range. A single character moves on with it. -/
def apply (r : Replacement) (c : Char) : List Char :=
  match r.image with
  | [first] => [.ofNat (first.toNat + (c.toNat - r.range.first))]
  | image => image

/-- Capitals are replaced by small letters, each by its own. -/
example : (read? "41-5A=61".toList).map (·.apply 'C') = some ['c'] := by decide

end Replacement

/-- Values of characters, each given to a range of them. -/
structure CharTable (α : Type) where
  /-- From the first code point of each range to its last one and its value. -/
  ranges : Std.TreeMap Nat (Nat × α)

namespace CharTable

variable {α : Type}

/-- The table of some ranges and their values. -/
def ofList (ranges : List (CharRange × α)) : CharTable α where
  ranges := .ofList (ranges.map fun (range, value) => (range.first, range.last, value))

/-- The table that gives a value to all characters of a text of ranges. -/
def ofTexts (texts : List (α × String)) : CharTable α :=
  ofList (texts.flatMap fun (value, text) =>
    ((tableWords text).filterMap CharRange.read?).map fun range => (range, value))

/-- The table of what replaces which characters, from a text of replacements. -/
def ofReplacements (text : String) : CharTable Replacement :=
  ofList (((tableWords text).filterMap Replacement.read?).map fun r => (r.range, r))

/-- The value of a character: that of the last range which starts before it, if it gets that
far. -/
def get? (table : CharTable α) (c : Char) : Option α :=
  match table.ranges.getEntryLE? c.toNat with
  | some (_, last, value) => if c.toNat ≤ last then some value else none
  | none => none

/-- Whether a character has a value. -/
def contains (table : CharTable α) (c : Char) : Bool :=
  (table.get? c).isSome

end CharTable

end Mhtml
