/-!
# Positions

Where a place in a text is for an editor: a line, and a column in UTF-16 code
units, both counted from zero. Positions are ordered by line, then by column.
-/

namespace Mhtml

/-- A line and a column, counted from zero. -/
structure Position where
  /-- The line. -/
  line : Nat
  /-- The column in UTF-16 code units. -/
  character : Nat
deriving DecidableEq, Repr, Inhabited

namespace Position

instance : LT Position where
  lt p q := p.line < q.line ∨ p.line = q.line ∧ p.character < q.character

instance : LE Position where
  le p q := p.line < q.line ∨ p.line = q.line ∧ p.character ≤ q.character

instance (p q : Position) : Decidable (p < q) :=
  inferInstanceAs (Decidable (p.line < q.line ∨ p.line = q.line ∧ p.character < q.character))

instance (p q : Position) : Decidable (p ≤ q) :=
  inferInstanceAs (Decidable (p.line < q.line ∨ p.line = q.line ∧ p.character ≤ q.character))

end Position

/-- A stretch of text between two positions. -/
structure Range where
  /-- Where it starts. -/
  start : Position
  /-- Where it ends; the character there is outside. -/
  stop : Position
deriving DecidableEq, Repr, Inhabited

/-- A range whose start does not come after its end. -/
def Range.Ordered (r : Range) : Prop :=
  r.start ≤ r.stop

instance (r : Range) : Decidable r.Ordered :=
  inferInstanceAs (Decidable (r.start ≤ r.stop))

end Mhtml
