/-!
# Sizes of text

A text is a list of characters. It is measured in two units: bytes of its UTF-8
form, in which offsets and spans are given, and UTF-16 code units, in which
editors count columns.
-/

namespace Mhtml

/-- The number of bytes in the UTF-8 form of a text. -/
def byteSize (cs : List Char) : Nat :=
  cs.foldl (fun n c => n + c.utf8Size) 0

/-- The number of UTF-16 code units of a character. -/
def unitSize (c : Char) : Nat :=
  if c.toNat ≤ 0xFFFF then 1 else 2

/-- The number of UTF-16 code units of a text. -/
def unitLength (cs : List Char) : Nat :=
  cs.foldl (fun n c => n + unitSize c) 0

theorem foldl_byteSize (cs : List Char) (n : Nat) :
    cs.foldl (fun n c => n + c.utf8Size) n = n + byteSize cs := by
  induction cs generalizing n with
  | nil => rfl
  | cons c cs ih =>
    simp only [byteSize, List.foldl_cons]
    rw [ih (n + c.utf8Size), ih (0 + c.utf8Size)]
    omega

@[simp] theorem byteSize_nil : byteSize [] = 0 := rfl

@[simp] theorem byteSize_cons (c : Char) (cs : List Char) :
    byteSize (c :: cs) = c.utf8Size + byteSize cs := by
  simp only [byteSize, List.foldl_cons]
  rw [foldl_byteSize cs, Nat.zero_add, byteSize]

@[simp] theorem byteSize_append (as bs : List Char) :
    byteSize (as ++ bs) = byteSize as + byteSize bs := by
  induction as with
  | nil => simp
  | cons c as ih => simp only [List.cons_append, byteSize_cons, ih]; omega

theorem foldl_unitLength (cs : List Char) (n : Nat) :
    cs.foldl (fun n c => n + unitSize c) n = n + unitLength cs := by
  induction cs generalizing n with
  | nil => rfl
  | cons c cs ih =>
    simp only [unitLength, List.foldl_cons]
    rw [ih (n + unitSize c), ih (0 + unitSize c)]
    omega

@[simp] theorem unitLength_nil : unitLength [] = 0 := rfl

@[simp] theorem unitLength_cons (c : Char) (cs : List Char) :
    unitLength (c :: cs) = unitSize c + unitLength cs := by
  simp only [unitLength, List.foldl_cons]
  rw [foldl_unitLength cs, Nat.zero_add, unitLength]

@[simp] theorem unitLength_append (as bs : List Char) :
    unitLength (as ++ bs) = unitLength as + unitLength bs := by
  induction as with
  | nil => simp
  | cons c as ih => simp only [List.cons_append, unitLength_cons, ih]; omega

theorem unitSize_pos (c : Char) : 0 < unitSize c := by
  simp only [unitSize]
  split <;> decide

end Mhtml
