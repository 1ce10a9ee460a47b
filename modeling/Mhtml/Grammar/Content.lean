import Mhtml.Document
import Mhtml.Source.Basic
import Mhtml.Grammar.Violation

/-!
# The content of a section

An element with a rule that permits certain names only is searched at all
depths. Opening tags of other names are reported, whether or not they are closed
later, and so are stray closing tags of other names. Self-closing tags are
exempt, and a closing tag that has a partner is never reported itself: rules 3 and
4 of the specification, 4.2 and section F.
-/

namespace Mhtml

/-- The tags below `e` that its rule does not permit, as the spans to report. -/
def offendingTags (d : Document) (e : Element) (c : Containment) : List Span :=
  let opened := e.descendants.filter fun child =>
    !child.isSelfClosing && !c.permits child.tag.name
  let stray := (e.inner?.elim [] d.strayWithin).filter fun token => !c.permits token.name
  (opened.map (·.opening) ++ stray.map (·.span)).mergeSort (·.start ≤ ·.start)

/-- Reports the tags inside `e` that a rule of permitted names does not permit. -/
def checkContent (s : Source) (d : Document) (e : Element) : List Diagnostic :=
  match Rule.for? e.tag with
  | some rule =>
    match rule.containment with
    | .only _ =>
      (offendingTags d e rule.containment).map fun span =>
        (Violation.contents rule).report (s.range span)
    | _ => []
  | none => []

end Mhtml
