import Mhtml.Uri.Domain.Basic
import Mhtml.Uri.Escape
import Mhtml.Uri.Fault

/-!
# Hosts of identifiers

What may stand as the host of an identifier, and its normal form. Schemes of the
web know three kinds: an address of 128 bits in brackets, an address of 32 bits
written in numbers, and a domain. A name whose last part is a number has to be an
address. Other schemes take any word without delimiters in place of the last two.
-/

namespace Mhtml.Uri

/-! ## Addresses of 128 bits -/

/-- The value of a group of 16 bits: up to four hexadecimal digits. -/
def group? (cs : List Char) : Option Nat :=
  if cs.isEmpty || 4 < cs.length then none else numberOfDigits? 16 cs

/-- The value of a decimal number below 256 without leading zeros. -/
def byte? (cs : List Char) : Option Nat :=
  if cs.isEmpty || (1 < cs.length && cs.head? == some '0') then none else numberBelow? 256 10 cs

/-- The two groups that four decimal bytes with dots between them take the place of. -/
def dotted? (cs : List Char) : Option (List Nat) :=
  match (pieces '.' cs).mapM byte? with
  | some [a, b, c, d] => some [256 * a + b, 256 * c + d]
  | _ => none

/-- The groups of a text with colons between them. -/
def groups? (mayEndDotted : Bool) (cs : List Char) : Option (List Nat) :=
  let words := pieces ':' cs
  (words.mapM group?).or do
    guard mayEndDotted
    return (← words.dropLast.mapM group?) ++ (← words.getLast?.bind dotted?)

/-- What stands before and after the first double colon. -/
def splitDoubleColon? : List Char → Option (List Char × List Char)
  | ':' :: ':' :: rest => some ([], rest)
  | c :: rest => (splitDoubleColon? rest).map fun (before, after) => (c :: before, after)
  | [] => none

/-- An address of eight groups, some zeros of which may be left out at a double colon. -/
def longAddress? (cs : List Char) : Option (List Nat) :=
  let side (mayEndDotted : Bool) (cs : List Char) : Option (List Nat) :=
    if cs.isEmpty then some [] else groups? mayEndDotted cs
  match splitDoubleColon? cs with
  | none => (groups? true cs).filter (·.length == 8)
  | some (before, after) => do
    let first ← side false before
    let last ← side true after
    guard (first.length + last.length ≤ 7)
    return first ++ List.replicate (8 - first.length - last.length) 0 ++ last

/-- The normal form of an address: the first of its longest runs of zeros is left out, unless it is
a single one. -/
def longAddressText (groups : List Nat) : List Char :=
  let runs := (List.range groups.length).map fun i => ((groups.drop i).takeWhile (· == 0)).length
  let longest := runs.foldl max 0
  let start := runs.idxOf longest
  if longest < 2 then joined groups
  else joined (groups.take start) ++ [':', ':'] ++ joined (groups.drop (start + longest))
where
  /-- Groups with colons between them. -/
  joined (groups : List Nat) : List Char :=
    [':'].intercalate (groups.map (Nat.toDigits 16))

/-! ## Addresses of 32 bits -/

/-- A number in a short address: octal after a zero, hexadecimal after `0x`, or decimal. -/
def addressNumber? : List Char → Option Nat
  | [] => none
  | '0' :: 'x' :: digits => numberOfDigits? 16 digits
  | '0' :: 'X' :: digits => numberOfDigits? 16 digits
  | '0' :: c :: digits => numberOfDigits? 8 (c :: digits)
  | digits => numberOfDigits? 10 digits

/-- The parts of a name between its dots, a last empty one left out. -/
def nameParts (name : List Char) : List (List Char) :=
  let parts := pieces '.' name
  if parts.length > 1 && parts.getLast? == some [] then parts.dropLast else parts

/-- Whether the last part of a name is a number, or looks like one. -/
def endsInNumber (name : List Char) : Bool :=
  (nameParts name).getLast?.any fun part =>
    !part.isEmpty && part.all Char.isDigit || (addressNumber? part).isSome

/-- The bounds of the last number of a short address after no, one, two and three bytes. -/
def lastNumberBounds : List Nat :=
  [0x100000000, 0x1000000, 0x10000, 0x100]

/-- An address of up to four numbers: all but the last are bytes, and the last fills the rest. -/
def shortAddress? (name : List Char) : Option Nat := do
  let numbers ← (nameParts name).mapM addressNumber?
  let bytes := numbers.dropLast
  let last ← numbers.getLast?
  let bound ← lastNumberBounds[bytes.length]?
  guard (bytes.all (· < 256) && last < bound)
  return bytes.foldl (fun n b => 256 * n + b) 0 * bound + last

/-- The normal form of an address: its four bytes with dots between them. -/
def shortAddressText (address : Nat) : List Char :=
  ['.'].intercalate ([0x1000000, 0x10000, 0x100, 1].map fun weight =>
    Nat.toDigits 10 (address / weight % 256))

/-! ## Hosts -/

/-- The text that an escaped host stands for, if it is one. -/
def unescapedHost? (cs : List Char) : Option (List Char) :=
  (String.fromUTF8? ⟨(unescape (String.ofList cs).toUTF8.toList).toArray⟩).map String.toList

/-- The normal form of an address in brackets, the first of which has been read. -/
def bracketed (rest : List Char) : Except Fault (List Char) :=
  match rest.getLast?, longAddress? rest.dropLast with
  | some ']', some groups => .ok ('[' :: longAddressText groups ++ [']'])
  | _, _ => .error .badLongAddress

/-- The normal form of the host in a scheme of the web. -/
def webHost : List Char → Except Fault (List Char)
  | '[' :: rest => bracketed rest
  | cs =>
    match (unescapedHost? cs).bind Domain.read? with
    | none => .error .badDomain
    | some [] => .error .emptyHost
    | some name =>
      if endsInNumber name then
        match shortAddress? name with
        | some address => .ok (shortAddressText address)
        | none => .error .badShortAddress
      else .ok (Domain.normal name)

/-- The characters that no host holds as they are. -/
def delimiters : List Char := '\x00' :: "\t\n\r #/:<>?@[\\]^|".toList

/-- The normal form of the host in any other scheme. -/
def plainHost : List Char → Except Fault (List Char)
  | '[' :: rest => bracketed rest
  | cs =>
    if cs.any delimiters.contains then .error .badCharacter else .ok (escape [] cs)

end Mhtml.Uri
