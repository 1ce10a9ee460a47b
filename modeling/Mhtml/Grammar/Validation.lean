import Mhtml.Grammar.Bounds
import Mhtml.Grammar.Sections
import Mhtml.Grammar.Content
import Mhtml.Grammar.Nesting
import Mhtml.Grammar.Pass

/-!
# Validation passes

A pass checks a text against the whole grammar. The ends of the document are
always checked, all else only if there is a root, and what the sections hold
only if each is there exactly once. The order of the checks is the one of section F
of the specification.
-/

namespace Mhtml

/-- The level down to which nesting is checked unless something else is asked for. -/
def defaultDepthLimit : Nat := 1024

/-- The records made while a document was read. -/
def Document.records (d : Document) : List Record :=
  d.stray.map fun token => .strayTag token.name

/-- Checks what the two sections hold. -/
def checkSections (s : Source) (d : Document) (limit : Nat) (sections : Sections) : Pass :=
  { diagnostics := checkContent s d sections.head ++ checkContent s d sections.body } ++
    checkNesting s limit sections.head ++ checkNesting s limit sections.body

/-- Checks the root and everything inside it. -/
def checkRoot (s : Source) (d : Document) (limit : Nat) : Pass :=
  match matchRoot s d with
  | (none, _) => { records := [.noRoot] }
  | (some root, extra) =>
    match matchSections s root with
    | (none, missing) => { diagnostics := extra ++ missing }
    | (some sections, _) => { diagnostics := extra } ++ checkSections s d limit sections

/-- Checks a document with its source against the grammar, nesting down to `limit`. -/
def checkDocument (s : Source) (d : Document) (limit : Nat) : Pass :=
  ⟨checkBounds s, d.records⟩ ++ checkRoot s d limit

/-- Checks a text against the grammar, nesting down to `limit`. -/
def validate (limit : Nat) (text : List Char) : Pass :=
  checkDocument (.ofText text) (parse text) limit

/-- The diagnostics of a version of a document. -/
structure Batch where
  /-- The document. -/
  uri : String
  /-- Its version. -/
  version : Int
  /-- The diagnostics of its text. -/
  diagnostics : List Diagnostic

namespace Batch

/-- Validates a version of a document; also the records of the pass. -/
def collect (uri : String) (version : Int) (limit : Nat) (text : List Char) :
    Batch × List Record :=
  let pass := validate limit text
  (⟨uri, version, pass.diagnostics⟩,
   pass.records ++ [.finished uri version pass.diagnostics.length])

/-- The document has moved on since the batch was made. -/
def Stale (b : Batch) (current : Int) : Prop :=
  b.version < current

instance (b : Batch) (current : Int) : Decidable (b.Stale current) :=
  inferInstanceAs (Decidable (b.version < current))

end Batch

end Mhtml
