import Mhtml.Text.Pieces
import Mhtml.Json.Basic

/-!
# Reading JSON

A reader takes characters off the front of a text and returns what it read
together with the rest. Values are read with a budget, one for each level or
item, which the length of the text always covers.
-/

namespace Mhtml.Json

/-- Drops the blanks that may stand between tokens. -/
def skipBlank (cs : List Char) : List Char :=
  cs.dropWhile fun c => c == ' ' || c == '\t' || c == '\n' || c == '\r'

/-- The code unit written by four hexadecimal digits. -/
def readUnit? : List Char → Option (Nat × List Char)
  | a :: b :: c :: d :: rest => (numberOfDigits? 16 [a, b, c, d]).map (·, rest)
  | _ => none

/-- The character of an escape that starts with a code unit. A character beyond the first 2^16
is written as a pair of surrogates; a surrogate on its own is no character. -/
def readCodePoint? (cs : List Char) : Option (Char × List Char) := do
  let (unit, rest) ← readUnit? cs
  if 0xD800 ≤ unit ∧ unit < 0xDC00 then
    let '\\' :: 'u' :: rest := rest | none
    let (low, rest) ← readUnit? rest
    guard (0xDC00 ≤ low ∧ low < 0xE000)
    return (Char.ofNat (0x10000 + (unit - 0xD800) * 0x400 + (low - 0xDC00)), rest)
  else
    guard (unit < 0xDC00 ∨ 0xE000 ≤ unit)
    return (Char.ofNat unit, rest)

/-- The character that a single letter after a backslash stands for. -/
def simpleEscape? : Char → Option Char
  | '"' => some '"'
  | '\\' => some '\\'
  | '/' => some '/'
  | 'b' => some '\x08'
  | 'f' => some '\x0c'
  | 'n' => some '\n'
  | 'r' => some '\r'
  | 't' => some '\t'
  | _ => none

/-- Reads the rest of a string up to its closing quote; `read` holds what came before, the latest
character first. -/
def readString? (budget : Nat) (read : List Char) (cs : List Char) : Option (String × List Char) :=
  match budget, cs with
  | 0, _ => none
  | _, [] => none
  | _ + 1, '"' :: rest => some (String.ofList read.reverse, rest)
  | budget + 1, '\\' :: 'u' :: rest => do
    let (c, rest) ← readCodePoint? rest
    readString? budget (c :: read) rest
  | budget + 1, '\\' :: e :: rest => do
    let c ← simpleEscape? e
    readString? budget (c :: read) rest
  | budget + 1, c :: rest =>
    if c.toNat < 0x20 ∨ c = '\\' then none else readString? budget (c :: read) rest

/-- Splits the digits off the front of a text. -/
def spanDigits (cs : List Char) : List Char × List Char :=
  cs.span fun c => '0' ≤ c ∧ c ≤ '9'

/-- Reads a number. -/
def readNumber? (cs : List Char) : Option (Json × List Char) := do
  let (sign, unsigned) := match cs with
    | '-' :: rest => (['-'], rest)
    | rest => ([], rest)
  let (whole, rest) := spanDigits unsigned
  guard (!whole.isEmpty && (whole.length == 1 || whole.head? != some '0'))
  let (fraction, rest) ← match rest with
    | '.' :: rest =>
      let (digits, rest) := spanDigits rest
      if digits.isEmpty then none else some ('.' :: digits, rest)
    | rest => some ([], rest)
  let (exponent, rest) ← match rest with
    | e :: rest =>
      if e == 'e' || e == 'E' then
        let (expSign, digits, rest) := match rest with
          | '+' :: r => (['+'], spanDigits r)
          | '-' :: r => (['-'], spanDigits r)
          | r => ([], spanDigits r)
        if digits.isEmpty then none else some (e :: expSign ++ digits, rest)
      else some ([], e :: rest)
    | [] => some ([], [])
  let n : Nat := whole.foldl (fun n d => 10 * n + (d.toNat - '0'.toNat)) 0
  if !fraction.isEmpty || !exponent.isEmpty || (!sign.isEmpty && n == 0) then
    return (.decimal (String.ofList (sign ++ whole ++ fraction ++ exponent)), rest)
  else return (.int (if sign.isEmpty then n else -n), rest)

/-- What remains of a text after a word that it starts with. -/
def afterWord? (word : String) (cs : List Char) : Option (List Char) :=
  if word.toList.isPrefixOf cs then some (cs.drop word.length) else none

/-- Adds a member in front of those read before; one of the same name is dropped. -/
def put (name : String) (v : Json) (read : List (String × Json)) : List (String × Json) :=
  (name, v) :: read.filter (·.1 != name)

mutual

/-- Reads a value. -/
def readValue? (budget : Nat) (cs : List Char) : Option (Json × List Char) :=
  match budget with
  | 0 => none
  | budget + 1 =>
    match skipBlank cs with
    | '"' :: rest => (readString? (rest.length + 1) [] rest).map fun (s, rest) => (.str s, rest)
    | '[' :: rest =>
      match skipBlank rest with
      | ']' :: rest => some (.arr [], rest)
      | rest => readItems? budget [] rest
    | '\x7b' :: rest =>
      match skipBlank rest with
      | '\x7d' :: rest => some (.obj [], rest)
      | rest => readMembers? budget [] rest
    | 'n' :: rest => (afterWord? "ull" rest).map (.null, ·)
    | 't' :: rest => (afterWord? "rue" rest).map (.bool true, ·)
    | 'f' :: rest => (afterWord? "alse" rest).map (.bool false, ·)
    | rest => readNumber? rest

/-- Reads the items of an array from the next one on; `read` holds those before, the latest
first. -/
def readItems? (budget : Nat) (read : List Json) (cs : List Char) : Option (Json × List Char) :=
  match budget with
  | 0 => none
  | budget + 1 => do
    let (v, rest) ← readValue? budget cs
    match skipBlank rest with
    | ',' :: rest => readItems? budget (v :: read) rest
    | ']' :: rest => some (.arr (v :: read).reverse, rest)
    | _ => none

/-- Reads the members of an object from the next one on; `read` holds those before, the latest
first. -/
def readMembers? (budget : Nat) (read : List (String × Json)) (cs : List Char) :
    Option (Json × List Char) :=
  match budget with
  | 0 => none
  | budget + 1 => do
    let '"' :: rest := skipBlank cs | none
    let (name, rest) ← readString? (rest.length + 1) [] rest
    let ':' :: rest := skipBlank rest | none
    let (v, rest) ← readValue? budget rest
    match skipBlank rest with
    | ',' :: rest => readMembers? budget (put name v read) rest
    | '\x7d' :: rest => some (.obj (put name v read).reverse, rest)
    | _ => none

end

/-- Reads a text that holds a single value. -/
def parse? (text : String) : Option Json := do
  let cs := text.toList
  let (v, rest) ← readValue? (cs.length + 1) cs
  guard (skipBlank rest).isEmpty
  return v

end Mhtml.Json
