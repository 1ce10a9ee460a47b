import Mhtml.Uri.Domain.Label

/-!
# Domains

A domain is read character by character and brought to its composed form, then
checked part by part. In its normal form the parts that hold characters beyond
ASCII are encoded.
-/

namespace Mhtml.Uri.Domain

/-- The characters that no domain holds. -/
def isForbidden (c : Char) : Bool :=
  c.toNat ≤ 0x20 || c.toNat == 0x7F || "%#/:<>?@[\\]^|".toList.contains c

/-- Whether a domain in its composed form will do: no forbidden character, parts that can be read,
and all of them written one way if some are written from right to left. -/
def isDomain (name : List Char) : Bool :=
  !name.any isForbidden &&
    match (pieces '.' name).mapM labelText? with
    | some labels =>
      labels.all isLabel && (!labels.any (·.any isRightToLeft) || labels.all isOneWay)
    | none => false

/-- The composed form of a domain, if it is one; nothing may be left of it. -/
def read? (name : List Char) : Option (List Char) :=
  ((name.mapM mapped?).map fun parts => composed parts.flatten).filter isDomain

/-- The normal form of a domain in its composed form. -/
def normal (name : List Char) : List Char :=
  ['.'].intercalate ((pieces '.' name).map fun label =>
    if label.all (·.toNat < 0x80) then label else "xn--".toList ++ Punycode.encode label)

end Mhtml.Uri.Domain
