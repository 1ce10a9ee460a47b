/-!
# Blank characters

The characters that count as blank inside a tag, and those that may surround a
document. The table is the Unicode property `White_Space`: 25 code points in
ten ranges. A byte order mark has no such property, but at either end of a
document it carries no content, so `isMargin` accepts it too.
-/

namespace Mhtml

/-- The ranges of code points with the property `White_Space`, ends included. -/
def blankRanges : List (Nat × Nat) :=
  [(0x09, 0x0D), (0x20, 0x20), (0x85, 0x85), (0xA0, 0xA0), (0x1680, 0x1680),
   (0x2000, 0x200A), (0x2028, 0x2029), (0x202F, 0x202F), (0x205F, 0x205F), (0x3000, 0x3000)]

/-- Whether a character has the property `White_Space`. -/
def isBlank (c : Char) : Bool :=
  blankRanges.any fun (low, high) => low ≤ c.toNat && c.toNat ≤ high

/-- Whether a character may stand before or after a document. -/
def isMargin (c : Char) : Bool :=
  isBlank c || c == '\uFEFF'

/-- Drops the characters satisfying `p` from both ends. -/
def trimBoth (p : Char → Bool) (cs : List Char) : List Char :=
  ((cs.dropWhile p).reverse.dropWhile p).reverse

/-- The table has 25 code points. -/
example : (blankRanges.map fun (low, high) => high + 1 - low).sum = 25 := by decide

end Mhtml
