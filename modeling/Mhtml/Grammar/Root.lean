import Mhtml.Document
import Mhtml.Source.Basic
import Mhtml.Grammar.Violation

/-!
# The root element

The root is the first paired `html` element of a document, at whatever depth it
stands. Further paired `html` elements are reported, those inside another one
excepted: the further elements of section F of the specification.
-/

namespace Mhtml

/-- Whether an element has this name and both tags. -/
def Element.isPair (e : Element) (tag : Tag) : Bool :=
  e.tag == tag && e.isPaired

/-- Those elements of a list in document order that start at `covered` or later and lie outside
all earlier ones that are kept. -/
def outermost (covered : Nat) : List Element → List Element
  | [] => []
  | e :: es =>
    if e.opening.start < covered then outermost covered es
    else e :: outermost e.outer.stop es

/-- The paired `html` elements of a document that lie in no other one. -/
def Document.roots (d : Document) : List Element :=
  outermost 0 (d.descendants.filter (·.isPair .html))

/-- The root element if there is one, and a report of each further one. -/
def matchRoot (s : Source) (d : Document) : Option Element × List Diagnostic :=
  match d.roots with
  | [] => (none, [])
  | root :: extra =>
    (some root, extra.map fun e => Violation.extraRoot.report (s.range e.opening))

end Mhtml
