import Mhtml.Text.Pieces

/-!
# Settings files

The part of TOML in which settings are written: lines of a key, an equals sign
and a string or an integer, with comments and blank lines between them. Keys are
bare or quoted. Tables, dotted keys and other kinds of values are not read.

A reader takes characters off the front of a text and returns what it read with
the rest. Readers that repeat have a budget of steps: more than the text has
characters at the start, and a line spends one and reads at least one, so that
what is left always covers the rest of the text.
-/

namespace Mhtml.Toml

/-- A value of a setting. -/
inductive Value where
  | string (s : String)
  | integer (n : Int)
deriving DecidableEq, Repr

/-- A space or a tab. -/
def isSpace (c : Char) : Bool :=
  c == ' ' || c == '\t'

/-- The characters that may stand in a comment or a string: no control character but a tab. -/
def isPrintable (c : Char) : Bool :=
  c == '\t' || (0x20 ≤ c.toNat && c.toNat != 0x7F)

/-- What follows the line feed, or carriage return and line feed, at the head of a text. -/
def newline? : List Char → Option (List Char)
  | '\n' :: rest => some rest
  | '\r' :: '\n' :: rest => some rest
  | _ => none

/-- What follows the end of a line or of the text, when only blanks and a comment stand before
it. -/
def endOfLine? (cs : List Char) : Option (List Char) :=
  let rest := match cs.dropWhile isSpace with
    | '#' :: rest => rest.dropWhile isPrintable
    | rest => rest
  if rest.isEmpty then some [] else newline? rest

/-! ## Strings -/

/-- The character whose code point is written in so many hexadecimal digits. -/
def readCodePoint? (digits : Nat) (cs : List Char) : Option (Char × List Char) := do
  let word := cs.take digits
  guard (word.length = digits)
  let n ← numberOfDigits? 16 word
  guard n.isValidChar
  return (Char.ofNat n, cs.drop digits)

/-- The character that an escape stands for, read from after the backslash. -/
def readEscape? : List Char → Option (Char × List Char)
  | 'b' :: rest => some ('\x08', rest)
  | 't' :: rest => some ('\t', rest)
  | 'n' :: rest => some ('\n', rest)
  | 'f' :: rest => some ('\x0c', rest)
  | 'r' :: rest => some ('\r', rest)
  | 'e' :: rest => some ('\x1b', rest)
  | '"' :: rest => some ('"', rest)
  | '\\' :: rest => some ('\\', rest)
  | 'x' :: rest => readCodePoint? 2 rest
  | 'u' :: rest => readCodePoint? 4 rest
  | 'U' :: rest => readCodePoint? 8 rest
  | _ => none

/-- Reads the rest of a string in double quotes; `read` holds what came before, the latest
character first. -/
def readBasic? (budget : Nat) (read : List Char) (cs : List Char) : Option (String × List Char) :=
  match budget, cs with
  | 0, _ => none
  | _, [] => none
  | budget + 1, c :: rest =>
    if c == '"' then some (String.ofList read.reverse, rest)
    else if c == '\\' then do
      let (c, rest) ← readEscape? rest
      readBasic? budget (c :: read) rest
    else if isPrintable c then readBasic? budget (c :: read) rest
    else none

/-- Reads the rest of a string in single quotes, which has no escapes. -/
def readLiteral? (cs : List Char) : Option (String × List Char) :=
  match cs.span fun c => isPrintable c && c != '\'' with
  | (content, '\'' :: rest) => some (String.ofList content, rest)
  | _ => none

/-- What follows a backslash at the end of a line: the next character that is neither blank nor
part of a line end. -/
def afterContinuation? (cs : List Char) : Option (List Char) :=
  (newline? (cs.dropWhile isSpace)).map skip
where
  /-- Drops blanks and line ends. -/
  skip : List Char → List Char
    | '\r' :: '\n' :: rest => skip rest
    | c :: rest => if isSpace c || c == '\n' then skip rest else c :: rest
    | [] => []

/-- Reads the rest of a string in triple quotes, either kind of quote. Double quotes have escapes,
and a backslash at the end of a line joins it to the next. Up to two quotes may stand before the
closing three. -/
def readMultiline? (quote : Char) (budget : Nat) (read : List Char) (cs : List Char) :
    Option (String × List Char) :=
  match budget, cs with
  | 0, _ => none
  | _, [] => none
  | budget + 1, c :: rest =>
    if c == quote then
      let quotes := (cs.takeWhile (· == quote)).length
      if quotes < 3 then
        readMultiline? quote budget (List.replicate quotes quote ++ read) (cs.drop quotes)
      else
        let closing := min quotes 5
        some (String.ofList (List.replicate (closing - 3) quote ++ read).reverse, cs.drop closing)
    else if c == '\\' && quote == '"' then
      match afterContinuation? rest with
      | some rest => readMultiline? quote budget read rest
      | none => do
        let (c, rest) ← readEscape? rest
        readMultiline? quote budget (c :: read) rest
    else if isPrintable c || c == '\n' then readMultiline? quote budget (c :: read) rest
    else
      match cs with
      | '\r' :: '\n' :: rest => readMultiline? quote budget ('\n' :: '\r' :: read) rest
      | _ => none

/-- Reads the rest of a string in triple quotes from after the opening ones. A line end right
there is no part of it. -/
def readMultilineBody? (quote : Char) (budget : Nat) (cs : List Char) :
    Option (String × List Char) :=
  readMultiline? quote budget [] ((newline? cs).getD cs)

/-! ## Integers -/

/-- The least number that is too large for an integer, its sign apart. -/
def integerBound : Nat := 0x10000000000000000

/-- The number written by some digits, with single underscores between them. -/
def digitsValue? (base : Nat) (cs : List Char) : Option Nat :=
  let groups := pieces '_' cs
  if groups.any List.isEmpty then none else numberBelow? integerBound base groups.flatten

/-- Decimal digits without a leading zero. -/
def decimal? (digits : List Char) : Option Nat :=
  if digits.head? == some '0' && digits.length != 1 then none else digitsValue? 10 digits

/-- The integer written by a word: decimal with an optional sign and no leading zero, or in base
16, 8 or 2 after `0x`, `0o` or `0b`. -/
def integer? : List Char → Option Int
  | '0' :: 'x' :: digits => (digitsValue? 16 digits).map Int.ofNat
  | '0' :: 'o' :: digits => (digitsValue? 8 digits).map Int.ofNat
  | '0' :: 'b' :: digits => (digitsValue? 2 digits).map Int.ofNat
  | '+' :: digits => (decimal? digits).map Int.ofNat
  | '-' :: digits => (decimal? digits).map fun n => -(n : Int)
  | digits => (decimal? digits).map Int.ofNat

/-! ## Keys, values and files -/

/-- The characters of a key without quotes. -/
def isBareKeyChar (c : Char) : Bool :=
  c.isAlphanum || c == '_' || c == '-'

/-- Reads a key. -/
def readKey? (budget : Nat) (cs : List Char) : Option (String × List Char) :=
  match cs with
  | '"' :: rest => readBasic? budget [] rest
  | '\'' :: rest => readLiteral? rest
  | cs =>
    match cs.span isBareKeyChar with
    | ([], _) => none
    | (key, rest) => some (String.ofList key, rest)

/-- Reads a value. -/
def readValue? (budget : Nat) (cs : List Char) : Option (Value × List Char) :=
  let string? (read? : Option (String × List Char)) : Option (Value × List Char) :=
    read?.map fun (s, rest) => (.string s, rest)
  match cs with
  | '"' :: '"' :: '"' :: rest => string? (readMultilineBody? '"' budget rest)
  | '\'' :: '\'' :: '\'' :: rest => string? (readMultilineBody? '\'' budget rest)
  | '"' :: rest => string? (readBasic? budget [] rest)
  | '\'' :: rest => string? (readLiteral? rest)
  | cs =>
    let (word, rest) := cs.span fun c => isBareKeyChar c || c == '+'
    (integer? word).map fun n => (.integer n, rest)

/-- Reads the key and the value of a line, and what ends the line. -/
def readEntry? (budget : Nat) (cs : List Char) : Option ((String × Value) × List Char) := do
  let (key, rest) ← readKey? budget cs
  let '=' :: rest := rest.dropWhile isSpace | none
  let (value, rest) ← readValue? budget (rest.dropWhile isSpace)
  return ((key, value), ← endOfLine? rest)

/-- Reads lines to the end of the text; `read` holds the entries before, the latest first. -/
def readEntries? (budget : Nat) (read : List (String × Value)) (cs : List Char) :
    Option (List (String × Value)) :=
  match budget, cs.dropWhile isSpace with
  | _, [] => some read.reverse
  | 0, _ => none
  | budget + 1, cs =>
    match endOfLine? cs with
    | some rest => readEntries? budget read rest
    | none => do
      let (entry, rest) ← readEntry? budget cs
      readEntries? budget (entry :: read) rest

/-- The entries of a settings file in order. A byte order mark at the start is passed over. -/
def parse? (text : List Char) : Option (List (String × Value)) :=
  let cs := if text.head? == some '\uFEFF' then text.drop 1 else text
  readEntries? (cs.length + 1) [] cs

end Mhtml.Toml
