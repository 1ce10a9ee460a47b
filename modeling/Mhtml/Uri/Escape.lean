import Mhtml.Text.Pieces

/-!
# Escapes in identifiers

What an identifier cannot hold as it is stands in it as escapes: a percent sign
and two hexadecimal digits for each byte. Which characters of ASCII are escaped
depends on the part of the identifier; control characters and those beyond ASCII
always are.
-/

namespace Mhtml.Uri

/-- The byte that two hexadecimal digits stand for. -/
def hexByte? (high low : UInt8) : Option UInt8 := do
  let h ← digitValue? (.ofNat high.toNat)
  let l ← digitValue? (.ofNat low.toNat)
  return UInt8.ofNat (16 * h + l)

/-- The bytes of a text with each escape of a percent sign and two digits replaced by its byte. -/
def unescape : List UInt8 → List UInt8
  | 0x25 :: high :: low :: rest =>
    match hexByte? high low with
    | some b => b :: unescape rest
    | none => 0x25 :: unescape (high :: low :: rest)
  | b :: rest => b :: unescape rest
  | [] => []
termination_by bytes => bytes.length

/-- The escape of a byte. -/
def escapeByte (b : UInt8) : List Char :=
  ['%', (Nat.digitChar (b.toNat / 16)).toUpper, (Nat.digitChar (b.toNat % 16)).toUpper]

/-- A text with escapes for what is no visible character of ASCII or a blank, and for the characters
in `reserved`. -/
def escape (reserved : List Char) (cs : List Char) : List Char :=
  cs.flatMap fun c =>
    if c.toNat < 0x20 || 0x7F ≤ c.toNat || reserved.contains c then
      (String.utf8EncodeChar c).flatMap escapeByte
    else [c]

/-- What is escaped in a fragment. -/
def reservedInFragment : List Char := " \"<>`".toList

/-- What is escaped in a path. -/
def reservedInPath : List Char := reservedInFragment ++ ['#', '?', '\x7b', '\x7d']

/-- What is escaped in the name and the password of a user. -/
def reservedInUser : List Char := reservedInPath ++ "/:;=@[\\]^|".toList

/-- What is escaped in a query; an apostrophe only where `isSpecial` says so. -/
def reservedInQuery (isSpecial : Bool) : List Char :=
  " \"#<>".toList ++ if isSpecial then ['\''] else []

end Mhtml.Uri
