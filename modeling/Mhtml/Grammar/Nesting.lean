import Mhtml.Document
import Mhtml.Source.Basic
import Mhtml.Grammar.Violation
import Mhtml.Grammar.Pass

/-!
# Nesting inside a section

A `title` holds text only, and a `span` holds no `div` at any depth. A section
is visited once, children before their parent is judged, so that what stands
below an element is known when it is. Elements deeper than a limit are not
judged, but they still count as standing below those above them; the first
level is judged whatever the limit. These are rules 5 and 6 of the specification,
4.3, in the single visit of section F, with the limit of section D.
-/

namespace Mhtml

namespace Nesting

/-- What a visit has found so far. -/
structure Findings where
  /-- The excluded names met among the nodes visited and below them. -/
  names : List String := []
  /-- The elements that break their rule, the latest found first. -/
  violations : List (Span × Violation) := []
  /-- Whether the limit has kept the visit from going deeper. -/
  truncated : Bool := false

/-- Adds a name to those met if some rule excludes it. -/
def note (names : List String) (name : String) : List String :=
  if Rule.excludedNames.contains name && !names.contains name then name :: names else names

/-- The excluded names among the elements below `e`. -/
def namesBelow (e : Element) : List String :=
  e.descendants.foldl (fun names child => note names child.tag.name) []

/-- The rule that `e` breaks, given the excluded names that stand below it. -/
def violation? (s : Source) (e : Element) (below : List String) : Option Violation :=
  match Rule.for? e.tag with
  | none => none
  | some rule =>
    let broken : Bool := match rule.containment with
      | .textOnly => e.inner?.any (s.holds '<')
      | .excludes names => e.isPaired && names.any below.contains
      | .only _ => false
    if broken then some (.contents rule) else none

/-- Adds what there is to find about `e`, given what was found below it. -/
def Findings.judge (found below : Findings) (s : Source) (e : Element) : Findings where
  names := note (below.names.foldl note found.names) e.tag.name
  violations :=
    match violation? s e below.names with
    | some v => (e.outer, v) :: below.violations
    | none => below.violations
  truncated := below.truncated

/-- Visits a run of nodes at `level` and all below it down to `limit`. -/
def visit (s : Source) (limit level : Nat) (found : Findings) : Forest → Findings
  | .nil => found
  | .text _ rest => visit s limit level found rest
  | .element tags children rest =>
    let e : Element := ⟨tags, children⟩
    let below :=
      if limit ≤ level then { found with names := namesBelow e, truncated := true }
      else visit s limit (level + 1) { found with names := [] } children
    visit s limit level (found.judge below s e) rest

/-- The reports of what was found, in source order. -/
def Findings.diagnostics (found : Findings) (s : Source) : List Diagnostic :=
  let violations := found.violations.reverse.mergeSort (·.1.start ≤ ·.1.start)
  violations.map fun (span, v) => v.report (s.range span)

/-- The record of a visit that the limit kept from going deeper. -/
def Findings.records (found : Findings) (limit : Nat) : List Record :=
  if found.truncated then [.truncated limit] else []

end Nesting

/-- Visits everything below an element. -/
def visitNesting (s : Source) (limit : Nat) (e : Element) : Nesting.Findings :=
  Nesting.visit s limit 1 {} e.children

/-- Reports the elements below `e` that break their nesting rule, and records whether some were
left out. -/
def checkNesting (s : Source) (limit : Nat) (e : Element) : Pass :=
  let found := visitNesting s limit e
  ⟨found.diagnostics s, found.records limit⟩

end Mhtml
