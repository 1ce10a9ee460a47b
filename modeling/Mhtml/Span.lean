/-!
# Spans

A span is a half-open range of byte offsets into the UTF-8 form of a text. An
offset is a member of a span when the span covers the byte at that offset.
-/

namespace Mhtml

/-- A half-open range of byte offsets. -/
structure Span where
  /-- The first offset covered. -/
  start : Nat
  /-- The offset just past the last one covered. -/
  stop : Nat
deriving DecidableEq, Repr, Inhabited

namespace Span

instance : Membership Nat Span where
  mem s offset := s.start ≤ offset ∧ offset < s.stop

instance (offset : Nat) (s : Span) : Decidable (offset ∈ s) :=
  inferInstanceAs (Decidable (s.start ≤ offset ∧ offset < s.stop))

/-- Whether `s` lies within `t`. -/
def Within (s t : Span) : Prop :=
  t.start ≤ s.start ∧ s.stop ≤ t.stop

instance (s t : Span) : Decidable (s.Within t) :=
  inferInstanceAs (Decidable (t.start ≤ s.start ∧ s.stop ≤ t.stop))

theorem mem_iff {offset : Nat} {s : Span} : offset ∈ s ↔ s.start ≤ offset ∧ offset < s.stop :=
  Iff.rfl

theorem within_iff {s t : Span} : s.Within t ↔ t.start ≤ s.start ∧ s.stop ≤ t.stop :=
  Iff.rfl

end Span

end Mhtml
