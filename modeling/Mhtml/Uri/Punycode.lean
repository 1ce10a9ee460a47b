/-!
# Encoded parts of domains

A part of a domain that holds characters beyond ASCII is written in ASCII: its
ASCII characters and a hyphen, then where each of the others goes, in the order
of their code points. A step from one to the next is a number of digits of base
36, the last digit being the first one below a threshold that moves with the
steps before.
-/

namespace Mhtml.Uri.Punycode

/-- The value of a digit: letters first, then decimal digits. -/
def digitValue? (c : Char) : Option Nat :=
  if 'a' ≤ c ∧ c ≤ 'z' then some (c.toNat - 'a'.toNat)
  else if '0' ≤ c ∧ c ≤ '9' then some (c.toNat - '0'.toNat + 26)
  else none

/-- The digit with a value. -/
def digit (value : Nat) : Char :=
  if value < 26 then .ofNat ('a'.toNat + value) else .ofNat ('0'.toNat + (value - 26))

/-- The threshold of the digit of a step that comes after some others. -/
def threshold (bias digits : Nat) : Nat :=
  min 26 (max 1 (36 * (digits + 1) - bias))

/-- The bias that `delta` leads to, thirty-six being added for each time that it is too great. -/
def biasOf (bias delta : Nat) : Nat :=
  if delta ≤ 455 then bias + 36 * delta / (delta + 38) else biasOf (bias + 36) (delta / 35)
termination_by delta
decreasing_by omega

/-- The bias after a step that brings the text to `count` characters; the first step says little
about the others. -/
def biasAfter (isFirst : Bool) (step count : Nat) : Nat :=
  let delta := if isFirst then step / 700 else step / 2
  biasOf 0 (delta + delta / count)

/-! ## Reading -/

/-- How far a step has been read. -/
structure Reading where
  /-- The characters so far. -/
  text : List Char
  /-- The code point of the last character, or the first one that can be. -/
  codePoint : Nat := 0x80
  /-- Where the last step ended. -/
  place : Nat := 0
  /-- The bias of the thresholds. -/
  bias : Nat := 72
  /-- Whether a step has been taken. -/
  moved : Bool := false
  /-- The sum of the digits of the step that is being read. -/
  sum : Nat := 0
  /-- What the next digit of the step counts. -/
  weight : Nat := 1
  /-- How many digits of the step have been read. -/
  digits : Nat := 0

namespace Reading

/-- Takes the last digit of a step: the character goes to its place, if there is such one. -/
def finish? (r : Reading) : Option Reading :=
  let count := r.text.length + 1
  let target := r.place + r.sum
  let codePoint := r.codePoint + target / count
  let place := target % count
  if codePoint.isValidChar then
    some { text := r.text.insertIdx place (.ofNat codePoint)
           codePoint, place := place + 1, moved := true
           bias := biasAfter (!r.moved) r.sum count }
  else none

/-- Takes a digit. -/
def step? (r : Reading) (c : Char) : Option Reading := do
  let d ← digitValue? c
  let taken := { r with sum := r.sum + d * r.weight }
  let t := threshold r.bias r.digits
  if d < t then taken.finish?
  else some { taken with weight := r.weight * (36 - t), digits := r.digits + 1 }

end Reading

/-- Splits an encoding at its last hyphen. One at the very start divides nothing. -/
def split (code : List Char) : List Char × List Char :=
  let steps := (code.reverse.takeWhile (· ≠ '-')).reverse
  match code.take (code.length - steps.length - 1) with
  | [] => ([], code)
  | plain => (plain, steps)

/-- The text that an encoding in lower case stands for. -/
def decode? (code : List Char) : Option (List Char) := do
  let (plain, steps) := split code
  let reading ← steps.foldlM Reading.step? { text := plain }
  if reading.digits = 0 then some reading.text else none

/-! ## Writing -/

/-- The digits of a step from the one on that comes after some others. -/
def stepDigits (bias digits step : Nat) : List Char :=
  let t := threshold bias digits
  if step < t then [digit step]
  else digit (t + (step - t) % (36 - t)) :: stepDigits bias (digits + 1) ((step - t) / (36 - t))
termination_by step
decreasing_by
  have positive : 0 < threshold bias digits := by simp only [threshold]; omega
  calc (step - threshold bias digits) / (36 - threshold bias digits)
      ≤ step - threshold bias digits := Nat.div_le_self _ _
    _ < step := by omega

/-- How far a text has been written. -/
structure Writing where
  /-- The digits so far. -/
  code : List Char := []
  /-- How many characters have their place. -/
  count : Nat
  /-- The least code point that is still to come. -/
  codePoint : Nat := 0x80
  /-- The step since the last character that was placed. -/
  step : Nat := 0
  /-- The bias of the thresholds. -/
  bias : Nat := 72
  /-- Whether a step has been written. -/
  moved : Bool := false

namespace Writing

/-- Goes past a character of the text on the way to those with a code point, and places these. -/
def pass (codePoint : Nat) (w : Writing) (c : Char) : Writing :=
  if c.toNat < codePoint then { w with step := w.step + 1 }
  else if c.toNat = codePoint then
    { w with
      code := w.code ++ stepDigits w.bias 0 w.step
      count := w.count + 1, step := 0, moved := true
      bias := biasAfter (!w.moved) w.step (w.count + 1) }
  else w

/-- Places all characters of the text that have a code point. -/
def place (text : List Char) (w : Writing) (codePoint : Nat) : Writing :=
  let reached := { w with step := w.step + (codePoint - w.codePoint) * (w.count + 1) }
  let placed := text.foldl (pass codePoint) reached
  { placed with step := placed.step + 1, codePoint := codePoint + 1 }

end Writing

/-- The encoding of a text. -/
def encode (text : List Char) : List Char :=
  let plain := text.filter (·.toNat < 0x80)
  let others := ((text.map Char.toNat).filter (0x80 ≤ ·)).eraseDups.mergeSort
  plain ++ (if plain.isEmpty then [] else ['-']) ++
    (others.foldl (Writing.place text) { count := plain.length }).code

example : encode "ma\u00F1ana".toList = "maana-pta".toList := by decide +kernel

example : decode? "maana-pta".toList = some "ma\u00F1ana".toList := by decide +kernel

/-- A hyphen at the start is no digit. -/
example : decode? "-pta".toList = none := by decide +kernel

end Mhtml.Uri.Punycode
