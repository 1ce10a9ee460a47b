import Mhtml.Json.Basic

/-!
# Shapes of JSON values

A shape says what a value has to look like before anything is made of it. The
shape of a record names its members. A record is written as an object, in which
other members may stand, too; most records may as well be written as an array
that holds the members' values in their order, and may end before members with a
default.
-/

namespace Mhtml

/-- A test of what a JSON value looks like. -/
abbrev Shape := Json → Bool

namespace Shape

/-- Any value. -/
def anything : Shape :=
  fun _ => true

/-- A truth value. -/
def boolean : Shape
  | .bool _ => true
  | _ => false

/-- A number of any kind. -/
def number : Shape
  | .int _ => true
  | .decimal _ => true
  | _ => false

/-- An integer of 32 bits with a sign. -/
def int32 : Shape :=
  fun v => v.int32?.isSome

/-- An integer of 32 bits without a sign. -/
def uint32 : Shape :=
  fun v => v.uint32?.isSome

/-- A string. -/
def text : Shape :=
  fun v => v.str?.isSome

/-- One of some words: the string itself, or an object that has the word as its only member, with
nothing in it. -/
def oneOf (words : List String) : Shape
  | .str s => words.contains s
  | .obj [(s, .null)] => words.contains s
  | _ => false

/-- The shape, or `null`. -/
def nullable (s : Shape) : Shape
  | .null => true
  | v => s v

/-- An array of values of a shape. -/
def listOf (s : Shape) : Shape
  | .arr items => items.all s
  | _ => false

/-- An object all of whose members have names with a property and values of a shape. -/
def mapOf (isName : String → Bool) (s : Shape) : Shape
  | .obj members => members.all fun (name, v) => isName name && s v
  | _ => false

/-- Either of two shapes. -/
def either (s t : Shape) : Shape :=
  fun v => s v || t v

end Shape

/-- A member of a record. -/
structure Member where
  /-- The member's name. -/
  name : String
  /-- What its value looks like. -/
  shape : Shape
  /-- Whether an object has to have it. -/
  isRequired : Bool
  /-- Whether an array may end before it. -/
  hasDefault : Bool := false

namespace Member

/-- A member that has to be there. -/
def required (name : String) (shape : Shape) : Member :=
  { name, shape, isRequired := true }

/-- A member that may be left out or be `null`. -/
def optional (name : String) (shape : Shape) : Member :=
  { name, shape := shape.nullable, isRequired := false }

/-- A member that may be left out, but not be `null`. -/
def omissible (name : String) (shape : Shape) : Member :=
  { name, shape, isRequired := false }

/-- A member with a default, which may be left out of an array, too. -/
def defaulted (name : String) (shape : Shape) : Member :=
  { optional name shape with hasDefault := true }

/-- Whether the values of an object will do for the member. -/
def accepts (m : Member) (values : List (String × Json)) : Bool :=
  match values.lookup m.name with
  | some v => m.shape v
  | none => !m.isRequired

end Member

/-- How a record is laid out. -/
structure Layout where
  /-- The members in their order. -/
  members : List Member
  /-- Whether the record may be written as an array. -/
  isPositional : Bool := true

namespace Layout

/-- Whether an array of a length may hold the members, only defaults being left out. -/
def fits (r : Layout) (length : Nat) : Bool :=
  r.isPositional && length ≤ r.members.length && (r.members.drop length).all (·.hasDefault)

/-- The values of the members by their names, those of an array being named in order. -/
def values? (r : Layout) : Json → Option (List (String × Json))
  | .obj values => some values
  | .arr items => if r.fits items.length then some ((r.members.map Member.name).zip items) else none
  | _ => none

/-- The value of a member. -/
def get? (r : Layout) (name : String) (v : Json) : Option Json :=
  (r.values? v).bind (·.lookup name)

/-- The shape of the record. -/
def shape (r : Layout) : Shape :=
  fun v => (r.values? v).any fun values => r.members.all (·.accepts values)

/-- The shape of the record when its other members have a shape of their own. -/
def shapeWithOthers (r : Layout) (others : Shape) : Shape :=
  fun v => r.shape v &&
    (r.values? v).any (·.all fun (name, w) => r.members.any (·.name == name) || others w)

end Layout

/-- A record that may be written as an array. -/
def Shape.record (members : List Member) : Shape :=
  Layout.shape { members }

end Mhtml
