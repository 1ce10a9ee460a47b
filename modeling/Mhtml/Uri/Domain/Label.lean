import Mhtml.Text.Composed.Basic
import Mhtml.Text.Direction
import Mhtml.Text.Joining
import Mhtml.Uri.Domain.Characters
import Mhtml.Uri.Punycode

/-!
# Parts of domains

What may stand between two dots of a domain. A part that announces itself as
encoded is read first. No part begins with a mark, and a joiner stands only where
it makes a difference. In a domain with text from right to left a part is written
either way, but not both.
-/

namespace Mhtml.Uri.Domain

/-- The greatest length of an encoding. -/
def maxEncodedLength : Nat := 2000

/-- The greatest length of a part that has to be encoded. -/
def maxDecodedLength : Nat := 1000

/-- The text of a part in lower case: that of an encoding if the part announces one. Such a text
is not empty and has its characters in the form in which they are kept. -/
def labelText? (label : List Char) : Option (List Char) :=
  match label with
  | 'x' :: 'n' :: '-' :: '-' :: code =>
    if label.getLast? = some '-' || code.length > maxEncodedLength then none
    else (Punycode.decode? code).filter fun text => text.all isKept && composed text == text
  | _ => some label

/-! ## Joiners -/

/-- The character that keeps two letters from being joined. -/
def nonJoiner : Char := '\u200C'

/-- The character that joins two letters. -/
def joiner : Char := '\u200D'

/-- Whether the first letter, marks apart, is joined on the side that is asked for. -/
def joins (sides : List Joining) : List Char → Bool
  | [] => false
  | c :: cs =>
    match joining? c with
    | some .transparent => joins sides cs
    | some side => sides.contains side
    | none => false

/-- Whether a joiner has its place between what stands before it, in reverse, and after it: behind
a sign that leaves out a vowel, or, if it keeps letters apart, between letters that would be
joined. -/
def isJoinerInPlace (c : Char) (before after : List Char) : Bool :=
  before.head?.any (combiningClass · == viramaClass) ||
    (c == nonJoiner && joins [.left, .dual] before && joins [.right, .dual] after)

/-- Whether all joiners of a text have their places behind what stands before it, in reverse. -/
def joinersInPlace (before : List Char) : List Char → Bool
  | [] => true
  | c :: after =>
    ((c != nonJoiner && c != joiner) || isJoinerInPlace c before after) &&
      joinersInPlace (c :: before) after

/-! ## Directions -/

/-- Whether a character is written from right to left. -/
def isRightToLeft (c : Char) : Bool :=
  [.rightToLeft, .arabicLetter, .arabicNumber].contains (direction c)

/-- The classes that letters of both directions may stand among. -/
def indifferent : List Direction :=
  [.europeanNumber, .europeanSeparator, .europeanTerminator, .commonSeparator, .mark, .boundary,
   .neutral]

/-- Whether all classes are among `inside`, and the last one that is no mark is among `atEnd`. -/
def isWritten (inside atEnd : List Direction) (classes : List Direction) : Bool :=
  classes.all inside.contains &&
    (classes.reverse.dropWhile (· == .mark)).head?.all atEnd.contains

/-- Whether a part may stand in a domain with text from right to left: its first letter says which
way it is written, and digits of one kind only go from right to left. -/
def isOneWay (label : List Char) : Bool :=
  let classes := label.map direction
  match classes with
  | [] => true
  | .leftToRight :: _ =>
    isWritten (.leftToRight :: indifferent) [.leftToRight, .europeanNumber] classes
  | .rightToLeft :: _ | .arabicLetter :: _ =>
    isWritten (.rightToLeft :: .arabicLetter :: .arabicNumber :: indifferent)
      [.rightToLeft, .arabicLetter, .europeanNumber, .arabicNumber] classes &&
      !(classes.contains .europeanNumber && classes.contains .arabicNumber)
  | _ => false

/-- Whether the text of a part will do by itself. -/
def isLabel (text : List Char) : Bool :=
  !text.head?.any isMark && joinersInPlace [] text &&
    (text.all (·.toNat < 0x80) || text.length ≤ maxDecodedLength)

end Mhtml.Uri.Domain
