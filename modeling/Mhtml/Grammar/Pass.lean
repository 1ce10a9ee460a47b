import Mhtml.Diagnostic

/-!
# Passes and their records

A pass over a text yields diagnostics, and records of what it met along the way.
Two passes one after the other make one pass.
-/

namespace Mhtml

/-- How much a record matters. -/
inductive RecordLevel where
  | warn
  | debug
  | trace
deriving DecidableEq, Repr

/-- The word for a level. -/
def RecordLevel.word : RecordLevel → String
  | warn => "WARN"
  | debug => "DEBUG"
  | trace => "TRACE"

/-- Something noted during a pass. -/
inductive Record where
  /-- A closing tag of this name matched no open element. -/
  | strayTag (name : String)
  /-- There is no root element to check. -/
  | noRoot
  /-- Nesting was not checked below this level. -/
  | truncated (limit : Nat)
  /-- A pass over a version of a document ended with so many diagnostics. -/
  | finished (uri : String) (version : Int) (count : Nat)
deriving DecidableEq, Repr

namespace Record

/-- The level of a record. -/
def level : Record → RecordLevel
  | strayTag _ => .trace
  | noRoot => .debug
  | truncated _ => .warn
  | finished .. => .debug

/-- The wording of a record. -/
def message : Record → String
  | strayTag name => s!"Stray closing tag </{name}>"
  | noRoot => "No html element found; skipping structure rules"
  | truncated limit => s!"Nesting deeper than {limit} levels; inner elements are not checked"
  | finished uri version count => s!"{uri} (version {version}): {count} diagnostics"

/-- A record as a line of a log. -/
def line (r : Record) : String :=
  r.level.word ++ " " ++ r.message

end Record

/-- What a pass has to say. -/
structure Pass where
  /-- The diagnostics in the order of the checks. -/
  diagnostics : List Diagnostic := []
  /-- The records in the order in which they were made. -/
  records : List Record := []
deriving DecidableEq, Repr

instance : Append Pass where
  append p q := ⟨p.diagnostics ++ q.diagnostics, p.records ++ q.records⟩

@[simp] theorem Pass.diagnostics_append (p q : Pass) :
    (p ++ q).diagnostics = p.diagnostics ++ q.diagnostics := rfl

end Mhtml
