import Mhtml.Source.Position

/-!
# Diagnostics

What a check has to say about a stretch of text. A report is valid when none of
its diagnostics is an error.
-/

namespace Mhtml

/-- How serious a diagnostic is. -/
inductive Severity where
  | error
  | warning
  | information
  | hint
deriving DecidableEq, Repr

namespace Severity

/-- The number that stands for a severity in messages to an editor. -/
def code : Severity → Nat
  | error => 1
  | warning => 2
  | information => 3
  | hint => 4

/-- The word that stands for a severity in a line of text. -/
def word : Severity → String
  | error => "error"
  | warning => "warning"
  | information => "info"
  | hint => "hint"

end Severity

/-- A finding about a range of a text. -/
structure Diagnostic where
  /-- How serious it is. -/
  severity : Severity
  /-- What it is about. -/
  range : Range
  /-- What it says. -/
  message : String
deriving DecidableEq, Repr

/-- No diagnostic of the list is an error. -/
def Valid (ds : List Diagnostic) : Prop :=
  ∀ d ∈ ds, d.severity ≠ .error

instance (ds : List Diagnostic) : Decidable (Valid ds) :=
  inferInstanceAs (Decidable (∀ d ∈ ds, d.severity ≠ .error))

end Mhtml
