/-!
# Pieces of a text

Cutting a text at a separator, and reading pieces of it as numbers. A number that
only counts below a bound is read no further than to the bound, and
`numberBelow?_eq` says that this is no other reading.
-/

namespace Mhtml

/-- The pieces of a text between the occurrences of `separator`; always at least one. -/
def pieces (separator : Char) : List Char → List (List Char)
  | [] => [[]]
  | c :: cs =>
    if c = separator then [] :: pieces separator cs
    else (pieces separator cs).modifyHead (c :: ·)

/-- The value of a digit of a base up to sixteen, letters in either case. -/
def digitValue? (c : Char) : Option Nat :=
  if '0' ≤ c ∧ c ≤ '9' then some (c.toNat - '0'.toNat)
  else if 'a' ≤ c ∧ c ≤ 'f' then some (c.toNat - 'a'.toNat + 10)
  else if 'A' ≤ c ∧ c ≤ 'F' then some (c.toNat - 'A'.toNat + 10)
  else none

/-- The number written by some digits of a base; no digit at all stands for zero. -/
def numberOfDigits? (base : Nat) (cs : List Char) : Option Nat := do
  let values ← cs.mapM digitValue?
  if values.all (· < base) then some (values.foldl (fun n d => base * n + d) 0) else none

/-- Adds a digit of a base to a number, if the result is below `bound`. -/
def addDigit? (bound base n : Nat) (c : Char) : Option Nat := do
  let d ← digitValue? c
  if d < base ∧ base * n + d < bound then some (base * n + d) else none

/-- The number written by some digits of a base, if it is below `bound`. Reading stops at the digit
that reaches the bound. -/
def numberBelow? (bound base : Nat) (cs : List Char) : Option Nat :=
  cs.foldlM (addDigit? bound base) 0

/-- Digits added to a number never make it smaller. -/
theorem le_foldl_digits {base : Nat} (hb : 0 < base) (ds : List Nat) (n : Nat) :
    n ≤ ds.foldl (fun n d => base * n + d) n := by
  induction ds generalizing n with
  | nil => exact Nat.le_refl n
  | cons d ds ih =>
    have : n ≤ base * n := Nat.le_mul_of_pos_left n hb
    exact Nat.le_trans (by omega) (ih (base * n + d))

theorem foldlM_addDigit?_eq {bound base n : Nat} (hb : 0 < base) (hn : n < bound) (cs : List Char) :
    cs.foldlM (addDigit? bound base) n = (do
      let values ← cs.mapM digitValue?
      let m := values.foldl (fun n d => base * n + d) n
      if values.all (· < base) ∧ m < bound then some m else none) := by
  induction cs generalizing n with
  | nil => simp [hn]
  | cons c cs ih =>
    rw [List.foldlM_cons, List.mapM_cons]
    cases hc : digitValue? c with
    | none => simp [addDigit?, hc]
    | some d =>
      by_cases hd : d < base ∧ base * n + d < bound
      · have step : addDigit? bound base n c = some (base * n + d) := by simp [addDigit?, hc, hd]
        cases hcs : cs.mapM digitValue? <;> simp [step, ih hd.2, hcs, hd.1]
      · have step : addDigit? bound base n c = none := by simp [addDigit?, hc, hd]
        cases hcs : cs.mapM digitValue? with
        | none => simp [step]
        | some ds =>
          have := le_foldl_digits hb ds (base * n + d)
          simp [step]
          omega

/-- Reading below a bound is reading, with what is not below it refused. -/
theorem numberBelow?_eq {bound base : Nat} (hb : 0 < base) (h : 0 < bound) (cs : List Char) :
    numberBelow? bound base cs = (numberOfDigits? base cs).filter (· < bound) := by
  rw [numberBelow?, foldlM_addDigit?_eq hb h, numberOfDigits?]
  cases cs.mapM digitValue? with
  | none => rfl
  | some ds =>
    by_cases hd : ds.all (· < base) = true
    · simp [hd, -List.all_eq_true, Option.filter_some]
    · simp [hd, -List.all_eq_true]

end Mhtml
