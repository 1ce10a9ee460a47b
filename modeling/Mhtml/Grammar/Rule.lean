import Mhtml.Tag

/-!
# Containment rules

What an element may hold, and the words that report a breach.
-/

namespace Mhtml

/-- What an element may hold. -/
inductive Containment where
  /-- Elements of these names only, at any depth. -/
  | only (names : List String)
  /-- Text without any markup. -/
  | textOnly
  /-- Anything but elements of these names, at any depth. -/
  | excludes (names : List String)
deriving DecidableEq, Repr

namespace Containment

/-- Whether an element called `name` may stand inside. -/
def permits (name : String) : Containment → Bool
  | only names => names.contains name
  | textOnly => false
  | excludes names => !names.contains name

/-- The names that the containment excludes. -/
def excluded : Containment → List String
  | excludes names => names
  | _ => []

end Containment

/-- The rule for what an element may hold. -/
structure Rule where
  /-- The name of the element. -/
  parent : String
  /-- What it may hold. -/
  containment : Containment
  /-- What is said when the rule is broken. -/
  message : String
deriving DecidableEq, Repr

namespace Rule

/-- All containment rules. -/
def all : List Rule :=
  [{ parent := "head", containment := .only ["title", "meta"],
     message := "head may contain only title or meta elements" },
   { parent := "body", containment := .only ["div", "span"],
     message := "body may contain only div or span elements" },
   { parent := "title", containment := .textOnly,
     message := "title can contain only text" },
   { parent := "span", containment := .excludes ["div"],
     message := "span cannot contain div elements" },
   { parent := "div", containment := .only ["div", "span"],
     message := "div may contain only div or span elements" }]

/-- The rule for an element, if it has one. -/
def for? (tag : Tag) : Option Rule :=
  all.find? (·.parent == tag.name)

/-- The names that some rule excludes. -/
def excludedNames : List String :=
  all.flatMap (·.containment.excluded)

end Rule

end Mhtml
