/-!
# JSON values

The values that an editor and the server exchange. Members of an object keep the
order in which they were written. An integer is kept apart from a number with a
fraction or an exponent and from a negative zero, which are kept as they were
spelt: nothing here calculates with one.
-/

namespace Mhtml

/-- A JSON value. -/
inductive Json where
  | null
  | bool (b : Bool)
  /-- An integer. -/
  | int (n : Int)
  /-- Any other number, as spelt. -/
  | decimal (literal : String)
  | str (s : String)
  | arr (items : List Json)
  | obj (members : List (String × Json))
deriving Repr, Inhabited

namespace Json

/-- A natural number. -/
def nat (n : Nat) : Json := int n

/-- The member of an object with this name. -/
def member? (name : String) : Json → Option Json
  | obj members => members.lookup name
  | _ => none

/-- The text of a string. -/
def str? : Json → Option String
  | str s => some s
  | _ => none

/-- The items of an array. -/
def items? : Json → Option (List Json)
  | arr items => some items
  | _ => none

/-- An integer that fits into 32 bits with a sign. -/
def int32? : Json → Option Int
  | int n => if -0x80000000 ≤ n ∧ n < 0x80000000 then some n else none
  | _ => none

/-- An integer that fits into 32 bits without a sign. -/
def uint32? : Json → Option Nat
  | int n => if 0 ≤ n ∧ n < 0x100000000 then some n.toNat else none
  | _ => none

end Json

end Mhtml
