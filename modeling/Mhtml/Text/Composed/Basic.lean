import Std.Data.TreeMap
import Mhtml.Text.Combining
import Mhtml.Text.Composed.Pairs

/-!
# Composed text

The form of a text in which a character and the marks on it are written as one
character where there is one. The text is taken apart, the marks on a character are
put in order, and each mark is joined with the character that it stands on unless
another mark blocks it. No character of the text may stand for a single other one,
as a variant does.
-/

namespace Mhtml

/-! ## Syllables -/

namespace Syllable

/-- The code point of the first syllable. -/
def first : Nat := 0xAC00

/-- The code point of the first leading consonant. -/
def firstLead : Nat := 0x1100

/-- The code point of the first vowel. -/
def firstVowel : Nat := 0x1161

/-- The code point before that of the first trailing consonant. -/
def noTail : Nat := 0x11A7

/-- How many leading consonants there are. -/
def leads : Nat := 19

/-- How many vowels there are. -/
def vowels : Nat := 21

/-- How many trailing consonants there are, none being one of them. -/
def tails : Nat := 28

/-- The letters of a syllable, if a character is one. -/
def letters? (c : Char) : Option (List Char) :=
  let index := c.toNat - first
  if first ≤ c.toNat && index < leads * vowels * tails then
    let lead := Char.ofNat (firstLead + index / (vowels * tails))
    let vowel := Char.ofNat (firstVowel + index % (vowels * tails) / tails)
    let tail := index % tails
    some (if tail = 0 then [lead, vowel] else [lead, vowel, .ofNat (noTail + tail)])
  else none

/-- The syllable of a consonant and a vowel, or of an open syllable and a consonant. -/
def join? (a b : Char) : Option Char :=
  let lead := a.toNat - firstLead
  let vowel := b.toNat - firstVowel
  let opening := a.toNat - first
  let tail := b.toNat - noTail
  if firstLead ≤ a.toNat && lead < leads && firstVowel ≤ b.toNat && vowel < vowels then
    some (.ofNat (first + (lead * vowels + vowel) * tails))
  else if first ≤ a.toNat && opening < leads * vowels * tails && opening % tails = 0 &&
      noTail < b.toNat && tail < tails then
    some (.ofNat (a.toNat + tail))
  else none

/-- A syllable is joined from its letters, one after the other. -/
example : ((letters? '\uAC01').bind fun
    | [lead, vowel, tail] => (join? lead vowel).bind (join? · tail)
    | _ => none) = some '\uAC01' := by decide

end Syllable

/-! ## Parts -/

/-- The parts of each composed character, down to those that have none, by its code point. -/
def Pair.parts : Std.TreeMap Nat (List Char) :=
  Pair.all.foldl (fun parts p =>
    parts.insert p.whole.toNat (parts.getD p.base.toNat [p.base] ++ [p.mark])) ∅

/-- Two characters as one number. -/
def Pair.key (a b : Char) : Nat :=
  a.toNat * 0x110000 + b.toNat

/-- What each pair of characters is composed to. -/
def Pair.wholes : Std.TreeMap Nat Char :=
  .ofList (Pair.all.map fun p => (Pair.key p.base p.mark, p.whole))

/-- The characters that a character is composed of. -/
def partsOf (c : Char) : List Char :=
  (Syllable.letters? c).getD (Pair.parts.getD c.toNat [c])

/-- The character that is composed of two. -/
def whole? (a b : Char) : Option Char :=
  Syllable.join? a b <|> Pair.wholes[Pair.key a b]?

/-! ## Order and composition -/

/-- Puts a character behind those before it, which are in reverse. A mark goes past marks of a
higher class. -/
def settle (c : Char) : List Char → List Char
  | [] => [c]
  | d :: before =>
    if 0 < combiningClass c ∧ combiningClass c < combiningClass d then d :: settle c before
    else c :: d :: before

/-- A text with the marks on each character in the order of their classes. -/
def inMarkOrder (cs : List Char) : List Char :=
  (cs.foldl (fun before c => settle c before) []).reverse

/-- Joins a base with what follows it. The marks that stay apart, in reverse, block those of no
higher class. -/
def joinFrom (base : Char) (apart : List Char) : List Char → List Char
  | [] => base :: apart.reverse
  | c :: rest =>
    let isBlocked := apart.head?.any fun mark => combiningClass c ≤ combiningClass mark
    match if isBlocked then none else whole? base c with
    | some whole => joinFrom whole apart rest
    | none =>
      if combiningClass c = 0 then base :: apart.reverse ++ joinFrom c [] rest
      else joinFrom base (c :: apart) rest

/-- The composed form of a text. -/
def composed (cs : List Char) : List Char :=
  match inMarkOrder (cs.flatMap partsOf) with
  | [] => []
  | c :: rest => joinFrom c [] rest

end Mhtml
