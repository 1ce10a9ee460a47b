import Mhtml.Uri.Escape

/-!
# Paths of identifiers

The normal form of a path has no segments that are dots: one dot stands for
nothing, and two take back the segment before them, unless it is the letter of a
drive. What follows a path is a query, a fragment or both.
-/

namespace Mhtml.Uri

/-- A slash of either kind. -/
def isSlash (c : Char) : Bool :=
  c == '/' || c == '\\'

/-- Whether a segment is one dot; it may be escaped. -/
def isDot (segment : List Char) : Bool :=
  [".", "%2e"].contains (String.ofList (segment.map Char.toLower))

/-- Whether a segment is two dots; each of them may be escaped. -/
def isDoubleDot (segment : List Char) : Bool :=
  ["..", ".%2e", "%2e.", "%2e%2e"].contains (String.ofList (segment.map Char.toLower))

/-- Whether a segment is the letter of a drive. -/
def isDrive : List Char → Bool
  | [letter, mark] => letter.isAlpha && (mark == ':' || mark == '|')
  | _ => false

/-- The segments of a path, cut at slashes; a backslash is one in special schemes only. -/
def segments (isSpecial : Bool) (path : List Char) : List (List Char) :=
  pieces '/' (path.map fun c => if isSpecial && c == '\\' then '/' else c)

/-- The normal form of a segment of a file after others: a drive at the start has a colon. -/
def segmentText (onFile : Bool) (before : List (List Char)) (segment : List Char) : List Char :=
  match segment with
  | [letter, mark] =>
    if onFile && before.all List.isEmpty && isDrive segment then [letter, ':']
    else escape reservedInPath [letter, mark]
  | _ => escape reservedInPath segment

/-- Goes past a segment, given the ones before it, the last one first. -/
def enter (onFile : Bool) (before : List (List Char)) (segment : List Char) : List (List Char) :=
  if isDoubleDot segment then
    match before with
    | last :: earlier => if isDrive last then before else earlier
    | [] => []
  else if isDot segment then before
  else segmentText onFile before segment :: before

/-- Goes past all segments. Dots at the end leave an empty segment behind. -/
def enterAll (onFile : Bool) (before : List (List Char)) : List (List Char) → List (List Char)
  | [] => before
  | [last] =>
    let after := enter onFile before last
    if isDot last || isDoubleDot last then [] :: after else after
  | segment :: rest => enterAll onFile (enter onFile before segment) rest

/-- The segments of a path in their normal form. A slash before the first one may be left out. -/
def normalSegments (isSpecial onFile : Bool) (path : List Char) : List (List Char) :=
  let named := match segments isSpecial path with
    | [] :: first :: rest => first :: rest
    | all => all
  (enterAll onFile [] named).reverse

/-- A path with its segments. -/
def pathText (segments : List (List Char)) : List Char :=
  '/' :: ['/'].intercalate segments

/-- The normal form of a fragment with its mark. -/
def fragmentText : List Char → List Char
  | '#' :: fragment => '#' :: escape reservedInFragment fragment
  | _ => []

/-- The normal form of a query and a fragment with their marks. -/
def tailText (isSpecial : Bool) : List Char → List Char
  | '?' :: rest =>
    let (query, fragment) := rest.span (· ≠ '#')
    '?' :: escape (reservedInQuery isSpecial) query ++ fragmentText fragment
  | rest => fragmentText rest

end Mhtml.Uri
