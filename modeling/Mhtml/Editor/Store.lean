import Std.Data.TreeMap
import Mhtml.Grammar.Validation

/-!
# Open documents

The texts that an editor has open, each with the version it was given. A text is
read when it is stored, and all requests about it share the reading. A write with
a version older than the stored one is refused, so that late messages do no harm.
-/

namespace Mhtml

/-- A version of a text with its reading. -/
structure StoredText where
  /-- The text with its tables. -/
  source : Source
  /-- The tree of the text. -/
  document : Document
  /-- The version that the editor gave it. -/
  version : Int
  /-- The tree is that of the text. -/
  document_eq : document = parse source.text

namespace StoredText

/-- Reads a text. -/
def ofText (text : List Char) (version : Int) : StoredText :=
  ⟨.ofText text, parse text, version, rfl⟩

/-- The text itself. -/
def text (t : StoredText) : List Char :=
  t.source.text

/-- Checks the text against the grammar, nesting down to `limit`. -/
def check (t : StoredText) (limit : Nat) : Pass :=
  checkDocument t.source t.document limit

/-- The diagnostics of the text, which is that of a document. -/
def batch (t : StoredText) (uri : String) (limit : Nat) : Batch :=
  ⟨uri, t.version, (t.check limit).diagnostics⟩

/-- A stored text is checked as any text is. -/
theorem check_eq_validate (t : StoredText) (limit : Nat) :
    t.check limit = validate limit t.text := by
  rw [check, validate, t.document_eq, text, ← t.source.eq_ofText]

/-- The batch of a stored text is the one collected from text and version. -/
theorem batch_eq_collect (t : StoredText) (uri : String) (limit : Nat) :
    t.batch uri limit = (Batch.collect uri t.version limit t.text).1 := by
  rw [batch, check_eq_validate]
  rfl

/-- No batch is stale while its text is the one that is stored. -/
theorem not_stale_batch (t : StoredText) (uri : String) (limit : Nat) :
    ¬ (t.batch uri limit).Stale t.version :=
  Int.lt_irrefl t.version

/-- A stored text is determined by its text and version. -/
theorem eq_ofText (t : StoredText) : t = ofText t.text t.version := by
  obtain ⟨source, document, version, h⟩ := t
  subst h
  simp only [ofText, text, ← source.eq_ofText]

end StoredText

/-- The open documents by the normal forms of their identifiers. -/
abbrev Store := Std.TreeMap String StoredText

namespace Store

/-- Whether a version may be written: the stored one, if any, is not newer. -/
def Accepts (store : Store) (uri : String) (version : Int) : Prop :=
  ∀ stored ∈ store.get? uri, stored.version ≤ version

instance (store : Store) (uri : String) (version : Int) : Decidable (store.Accepts uri version) :=
  inferInstanceAs (Decidable (∀ stored ∈ store.get? uri, stored.version ≤ version))

/-- The store after a write, or nothing if the write is refused. -/
def write? (store : Store) (uri : String) (new : StoredText) : Option Store :=
  if store.Accepts uri new.version then some (store.insert uri new) else none

end Store

end Mhtml
