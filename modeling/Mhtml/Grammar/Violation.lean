import Mhtml.Diagnostic
import Mhtml.Grammar.Rule

/-!
# Violations of the grammar

Why a document is refused. Every violation is reported as an error, and its
wording is given here only.
-/

namespace Mhtml

/-- A breach of the grammar. -/
inductive Violation where
  /-- The document does not start with `<html>`. -/
  | missingStart
  /-- The document does not end with `</html>`. -/
  | missingEnd
  /-- There is a second `html` element. -/
  | extraRoot
  /-- The root does not hold this section exactly once. -/
  | sectionCount (tag : Tag)
  /-- An element holds what its rule does not allow. -/
  | contents (rule : Rule)
deriving DecidableEq, Repr

namespace Violation

/-- The wording of a violation. -/
def message : Violation → String
  | missingStart => "Document must start with <html>"
  | missingEnd => "Document must end with </html>"
  | extraRoot => "Document may contain only one html element"
  | sectionCount tag => s!"html must contain exactly one {tag.name} element"
  | contents rule => rule.message

/-- The report of a violation at a range. -/
def report (v : Violation) (range : Range) : Diagnostic :=
  ⟨.error, range, v.message⟩

end Violation

end Mhtml
