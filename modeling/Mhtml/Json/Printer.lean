import Mhtml.Json.Basic

/-!
# Writing JSON

The compact form: no blanks, members in their order. A string escapes quotes,
backslashes and control characters, and nothing else.
-/

namespace Mhtml.Json

/-- A hexadecimal digit in lower case. -/
def hexDigit (n : Nat) : Char :=
  if n < 10 then Char.ofNat ('0'.toNat + n) else Char.ofNat ('a'.toNat + (n - 10))

/-- A character as it stands inside a string. -/
def escapeChar (c : Char) : String :=
  match c with
  | '"' => "\\\""
  | '\\' => "\\\\"
  | '\n' => "\\n"
  | '\r' => "\\r"
  | '\t' => "\\t"
  | '\x08' => "\\b"
  | '\x0c' => "\\f"
  | c =>
    if c.toNat < 0x20 then
      ("\\u00".push (hexDigit (c.toNat / 16))).push (hexDigit (c.toNat % 16))
    else c.toString

/-- Appends a string with its quotes. -/
def writeString (out s : String) : String :=
  (s.foldl (fun out c => out ++ escapeChar c) (out.push '"')).push '"'

mutual

/-- Appends a value. -/
def write (out : String) : Json → String
  | null => out ++ "null"
  | bool true => out ++ "true"
  | bool false => out ++ "false"
  | int n => out ++ toString n
  | decimal literal => out ++ literal
  | str s => writeString out s
  | arr items => (writeItems (out.push '[') items).push ']'
  | obj members => (writeMembers (out.push '\x7b') members).push '\x7d'

/-- Appends the items of an array with commas between them. -/
def writeItems (out : String) : List Json → String
  | [] => out
  | [v] => write out v
  | v :: vs => writeItems ((write out v).push ',') vs

/-- Appends the members of an object with commas between them. -/
def writeMembers (out : String) : List (String × Json) → String
  | [] => out
  | [(name, v)] => write ((writeString out name).push ':') v
  | (name, v) :: vs => writeMembers ((write ((writeString out name).push ':') v).push ',') vs

end

/-- The compact form of a value. -/
def compact (v : Json) : String :=
  write "" v

end Mhtml.Json
