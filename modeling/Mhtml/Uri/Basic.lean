import Mhtml.Text.Blank
import Mhtml.Uri.Host
import Mhtml.Uri.Path

/-!
# Identifiers of documents

An identifier starts with a scheme and a colon. What follows is free, but for
an authority: user, host and a number. Schemes of the web have one however many
slashes stand before it, files have a host after two slashes, and other schemes
have an authority after two slashes.

Identifiers with the same normal form are the same: documents are kept and
reported by it. `check` reads identifiers as the web does; what is made of a
normal form does not depend on how it is found, and takes a `Reader`.
-/

namespace Mhtml.Uri

/-- The scheme of an identifier in lower case, and what follows its colon. -/
def scheme? (cs : List Char) : Option (String × List Char) :=
  match cs.span fun c => c.isAlphanum || c == '+' || c == '-' || c == '.' with
  | (name, ':' :: rest) =>
    if name.head?.any Char.isAlpha then some (String.ofList (name.map Char.toLower), rest) else none
  | _ => none

/-- The schemes of the web with the numbers that need not be written. -/
def webSchemes : List (String × Nat) :=
  [("http", 80), ("https", 443), ("ws", 80), ("wss", 443), ("ftp", 21)]

/-- The characters that end an authority; a backslash ends one on the web only. -/
def endsAuthority (onWeb : Bool) (c : Char) : Bool :=
  c == '/' || c == '?' || c == '#' || (onWeb && c == '\\')

/-- The characters that end a path. -/
def endsPath (c : Char) : Bool :=
  c == '?' || c == '#'

/-! ## Authorities -/

/-- Splits an authority at its last at sign into user and place. -/
def splitUser (authority : List Char) : Option (List Char) × List Char :=
  let place := (authority.reverse.takeWhile (· ≠ '@')).reverse
  let user := authority.take (authority.length - place.length - 1)
  (if authority.contains '@' then some user else none, place)

/-- The normal form of a user with the at sign. An empty password is left out, and so is a user
without name and password. -/
def userText (user : List Char) : List Char :=
  let (name, rest) := user.span (· ≠ ':')
  let password := rest.drop 1
  if name.isEmpty && password.isEmpty then []
  else
    escape reservedInUser name ++
      (if password.isEmpty then [] else ':' :: escape reservedInUser password) ++ ['@']

/-- Splits a place at the first colon outside brackets into the host and the rest. -/
def splitHost (inBrackets : Bool) : List Char → List Char × List Char
  | [] => ([], [])
  | c :: cs =>
    if c = ':' && !inBrackets then ([], c :: cs)
    else
      let (host, rest) := splitHost (c = '[' || (inBrackets && c ≠ ']')) cs
      (c :: host, rest)

/-- Reads what follows a host: nothing, or a colon and a number of 16 bits, which may be left out.
Outside the web a backslash ends it. The normal form has no number that goes without saying; also
what is left. -/
def hostNumber (usual? : Option Nat) : List Char → Except Fault (List Char × List Char)
  | ':' :: cs =>
    let (digits, rest) := cs.span Char.isDigit
    match numberBelow? 0x10000 10 digits with
    | some n =>
      if !rest.isEmpty && rest.head? != some '\\' then .error .badNumber
      else if digits.isEmpty || usual? == some n then .ok ([], rest)
      else .ok (':' :: Nat.toDigits 10 n, rest)
    | none => .error .badNumber
  | [] => .ok ([], [])
  | _ => .error .badNumber

/-- The normal form of an authority, and what follows it. Outside the web there may be no host, but
then nobody is named and no number follows. -/
def authority (onWeb : Bool) (usual? : Option Nat) (cs : List Char) :
    Except Fault (List Char × List Char) := do
  let text := cs.takeWhile (!endsAuthority onWeb ·)
  let (user?, place) := splitUser text
  let (host, number) := splitHost false place
  let isAtSignOnly := user? == some [] && place.isEmpty && text.length < cs.length
  if isAtSignOnly || (host.isEmpty && (onWeb || !number.isEmpty)) then throw .emptyHost
  let hostText ← if onWeb then webHost host else plainHost host
  let (numberText, rest) ← hostNumber usual? number
  let user := userText (user?.getD [])
  if host.isEmpty && !user.isEmpty then throw .emptyHost
  return (user ++ hostText ++ numberText, rest ++ cs.drop text.length)

/-! ## Schemes -/

/-- The normal form of what follows the scheme of a file. A host counts only after two slashes; it
is left out if it is this machine, or if the path starts with a drive. A drive in the place of the
host is part of the path. -/
def fileText (rest : List Char) : Except Fault (List Char) := do
  let (host, path) ← match rest with
    | a :: b :: cs =>
      if isSlash a && isSlash b then
        let host := cs.takeWhile (!endsAuthority true ·)
        if host.isEmpty || isDrive host then .ok ([], cs)
        else do .ok (← webHost host, cs.drop host.length)
      else .ok ([], rest)
    | _ => .ok ([], rest)
  let segments := (normalSegments true true (path.takeWhile (!endsPath ·))).dropWhile List.isEmpty
  let isLocal := host == "localhost".toList || segments.head?.any isDrive
  return "//".toList ++ (if isLocal then [] else host) ++ pathText segments ++
    tailText true (path.dropWhile (!endsPath ·))

/-- The normal form of what follows the scheme and the slashes of an identifier on the web. -/
def webText (usual : Nat) (rest : List Char) : Except Fault (List Char) := do
  let (place, path) ← authority true (some usual) (rest.dropWhile isSlash)
  return "//".toList ++ place ++
    pathText (normalSegments true false (path.takeWhile (!endsPath ·))) ++
    tailText true (path.dropWhile (!endsPath ·))

/-- The normal form of what follows any other scheme. A path that starts with an empty segment is
kept apart from the scheme by a dot. What starts with no slash has no segments. -/
def plainText (rest : List Char) : Except Fault (List Char) := do
  match rest with
  | '/' :: '/' :: rest =>
    let (place, path) ← authority false none rest
    let named := path.takeWhile (!endsPath ·)
    return "//".toList ++ place ++
      (if named.isEmpty then [] else pathText (normalSegments false false named)) ++
      tailText false (path.dropWhile (!endsPath ·))
  | '/' :: _ =>
    let named := normalSegments false false (rest.takeWhile (!endsPath ·))
    let apart := if named.length > 1 && named.head? == some [] then "/.".toList else []
    return apart ++ pathText named ++ tailText false (rest.dropWhile (!endsPath ·))
  | _ =>
    return escape [] (rest.takeWhile (!endsPath ·)) ++ tailText false (rest.dropWhile (!endsPath ·))

/-- The normal form of what follows a scheme. -/
def textAfter (scheme : String) (rest : List Char) : Except Fault (List Char) :=
  if scheme == "file" then fileText rest
  else
    match webSchemes.lookup scheme with
    | some usual => webText usual rest
    | none => plainText rest

/-- The normal form of a text that identifies a document. Blanks around it and line breaks inside
do not count. -/
def check (text : String) : Except Fault String := do
  let cs := (trimBoth (·.toNat ≤ 0x20) text.toList).filter fun c => !"\t\n\r".toList.contains c
  match scheme? cs with
  | some (scheme, rest) => return scheme ++ String.ofList (':' :: (← textAfter scheme rest))
  | none => throw .noScheme

/-! ## Readers -/

/-- A way to read identifiers. -/
class Reader where
  /-- The normal form of a text, if it identifies a document. -/
  normal? : String → Option String

/-- Identifiers are read as on the web. -/
instance : Reader where
  normal? text := (check text).toOption

/-- Whether a text identifies a document. -/
def isValid [Reader] (text : String) : Bool :=
  (Reader.normal? text).isSome

end Mhtml.Uri
