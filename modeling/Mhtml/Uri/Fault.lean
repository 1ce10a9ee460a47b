/-!
# Faults of identifiers

Why a text identifies no document. Of several faults the first one counts in the
order in which a text is read: scheme, user, host, number.
-/

namespace Mhtml.Uri

/-- Why a text identifies nothing. -/
inductive Fault where
  /-- It does not start with a scheme. -/
  | noScheme
  /-- There is no host where one has to be. -/
  | emptyHost
  /-- The host is no domain. -/
  | badDomain
  /-- The host ends in a number and is no address of 32 bits. -/
  | badShortAddress
  /-- The host is in brackets and is no address of 128 bits. -/
  | badLongAddress
  /-- The host holds a delimiter. -/
  | badCharacter
  /-- What follows the host is no number of 16 bits. -/
  | badNumber
deriving DecidableEq, Repr

/-- The wording of a fault. -/
def Fault.message : Fault → String
  | noScheme => "relative URL without a base"
  | emptyHost => "empty host"
  | badDomain => "invalid international domain name"
  | badShortAddress => "invalid IPv4 address"
  | badLongAddress => "invalid IPv6 address"
  | badCharacter => "invalid domain character"
  | badNumber => "invalid port number"

end Mhtml.Uri
