import Mhtml.Text.Blank
import Mhtml.Source.Basic
import Mhtml.Grammar.Violation

/-!
# The ends of a document

Apart from blanks and byte order marks around it, a document starts with the
very characters `<html>` and ends with `</html>`. The two are checked apart:
rule 1 of the specification, 4.1, with the blanks of section F.
-/

namespace Mhtml

/-- What a document starts with. -/
def rootStart : List Char := "<html>".toList

/-- What a document ends with. -/
def rootEnd : List Char := "</html>".toList

/-- The range given for a missing start: the place where it belongs. -/
def missingStartRange : Range :=
  ⟨⟨0, 0⟩, ⟨0, rootStart.length⟩⟩

/-- The range given for a missing end: the tail of the last line. -/
def missingEndRange (s : Source) : Range :=
  let length := s.lineLength s.lastLine
  ⟨⟨s.lastLine, length - rootEnd.length⟩, ⟨s.lastLine, length⟩⟩

/-- Checks how the document starts and ends. -/
def checkBounds (s : Source) : List Diagnostic :=
  let trimmed := trimBoth isMargin s.text
  (if rootStart.isPrefixOf trimmed then [] else [Violation.missingStart.report missingStartRange]) ++
  (if rootEnd.isSuffixOf trimmed then [] else [Violation.missingEnd.report (missingEndRange s)])

end Mhtml
