import Mhtml.Text.Search
import Mhtml.Grammar.Root

/-!
# The sections of the root

The root holds exactly one paired `head` and exactly one paired `body`, at
whatever depth. A breach is reported on the line of the first literal `<head` or
`<body` of the text, even where that is the start of a longer name, and on the
first line if there is none: rule 2 of the specification, 4.1, as section F has it.
-/

namespace Mhtml

/-- The two sections of a document. -/
structure Sections where
  head : Element
  body : Element

/-- How many columns the report of a wrong number of sections covers. -/
def sectionCountWidth : Nat := 10

/-- The range given for a wrong number of sections. -/
def sectionCountRange (s : Source) (tag : Tag) : Range :=
  let line :=
    match findWord? ('<' :: tag.name.toList) s.text with
    | some offset => (s.position offset).line
    | none => 0
  ⟨⟨line, 0⟩, ⟨line, sectionCountWidth⟩⟩

/-- The only paired element called `tag` below the root, or else a report. -/
def matchSection (s : Source) (root : Element) (tag : Tag) : Except Diagnostic Element :=
  match root.descendants.filter (·.isPair tag) with
  | [e] => .ok e
  | _ => .error ((Violation.sectionCount tag).report (sectionCountRange s tag))

/-- Both sections of the root, or else a report of each that is missing or repeated. -/
def matchSections (s : Source) (root : Element) : Option Sections × List Diagnostic :=
  match matchSection s root .head, matchSection s root .body with
  | .ok head, .ok body => (some ⟨head, body⟩, [])
  | .ok _, .error d => (none, [d])
  | .error d, .ok _ => (none, [d])
  | .error d, .error d' => (none, [d, d'])

end Mhtml
