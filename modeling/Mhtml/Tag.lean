/-!
# Element names

The seven elements that the grammar speaks about, and all others by name.
-/

namespace Mhtml

/-- An element's name. -/
inductive Tag where
  | html
  | head
  | body
  | title
  /-- The element `meta`. -/
  | metadata
  | div
  | span
  /-- An element the grammar does not know, by its name in lower case. -/
  | other (name : String)
deriving DecidableEq, Repr

namespace Tag

/-- The element with a name in lower case. -/
def ofName : String → Tag
  | "html" => html
  | "head" => head
  | "body" => body
  | "title" => title
  | "meta" => metadata
  | "div" => div
  | "span" => span
  | name => other name

/-- The name in lower case. -/
def name : Tag → String
  | html => "html"
  | head => "head"
  | body => "body"
  | title => "title"
  | metadata => "meta"
  | div => "div"
  | span => "span"
  | other name => name

/-- Whether the grammar speaks about the element. -/
def isKnown : Tag → Bool
  | other _ => false
  | _ => true

@[simp] theorem name_ofName (name : String) : (ofName name).name = name := by
  unfold ofName
  split <;> rfl

end Tag

end Mhtml
