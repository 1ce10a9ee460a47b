import Mhtml.Text.Blank
import Mhtml.Text.Measure
import Mhtml.Text.Search
import Mhtml.Span

/-!
# Tag tokens

The lexer of markup. A tag is a match of the pattern

    <\s*(/)?\s*([A-Za-z][A-Za-z0-9-]*)[^<>]*>

in which `\s` is a blank. `Token.read?` reads it in the order of the pattern: each
run takes all it can get. No run can take what the part after it needs, so that
nothing is ever given back. A text is searched from its head on. Where a tag
matches, the search goes on after that tag, and everywhere else with the next
character; what no tag covers is left to the tree as text. This is the tokenizer of section F of
the specification.
-/

namespace Mhtml

/-- What a tag does to the element it names. -/
inductive TagKind where
  /-- Opens it, as in `<div>`. -/
  | opening
  /-- Closes it, as in `</div>`. -/
  | closing
  /-- Opens and closes it at once, as in `<meta/>`. -/
  | selfClosing
deriving DecidableEq, Repr

/-- A tag found in a text. -/
structure Token where
  /-- What the tag does. -/
  kind : TagKind
  /-- The element's name in lower case. -/
  name : String
  /-- Where the tag stands, both brackets included. -/
  span : Span
deriving DecidableEq, Repr

namespace Token

/-- The characters that a name may hold after its first letter. -/
def isNameChar (c : Char) : Bool :=
  c.isAlphanum || c == '-'

/-- The two characters that end whatever a `<` has begun. -/
def isBracket (c : Char) : Bool :=
  c == '<' || c == '>'

/-- What a match of the pattern consists of. -/
structure Match where
  /-- Whether there is a slash before the name. -/
  slash : Bool
  /-- The name as it is written. -/
  word : List Char
  /-- The whole tag. -/
  raw : List Char
deriving DecidableEq

/-- The slash at the head of a text, if there is one, and what follows. -/
def splitSlash : List Char → List Char × List Char
  | '/' :: cs => (['/'], cs)
  | cs => ([], cs)

/-- The match of the pattern at the head of a text. -/
def read? : List Char → Option Match
  | '<' :: cs =>
    let (blanks, cs) := cs.span isBlank
    let (slash, cs) := splitSlash cs
    let (more, cs) := cs.span isBlank
    let (word, cs) := cs.span isNameChar
    let (others, cs) := cs.span (!isBracket ·)
    if word.head?.any Char.isAlpha && cs.head? == some '>' then
      some { slash := !slash.isEmpty, word
             raw := '<' :: (blanks ++ (slash ++ (more ++ (word ++ (others ++ ['>']))))) }
    else none
  | _ => none

/-- What a matched tag does. Of a tag without a slash before its name the whole text is searched
for a slash that stands before a `>`. -/
def Match.kind (m : Match) : TagKind :=
  if m.slash then .closing
  else if (findWord? ['/', '>'] m.raw).isSome then .selfClosing
  else .opening

/-- The token of a match at `offset`. -/
def Match.token (m : Match) (offset : Nat) : Token where
  kind := m.kind
  name := String.ofList (m.word.map Char.toLower)
  span := ⟨offset, offset + byteSize m.raw⟩

/-- Collects the tags of a text that starts at `offset`, the latest one first. The next `skip`
characters belong to the tag before. -/
def collect (offset skip : Nat) (found : List Token) : List Char → List Token
  | [] => found
  | c :: cs =>
    if skip > 0 then collect (offset + c.utf8Size) (skip - 1) found cs
    else
      match read? (c :: cs) with
      | some m => collect (offset + c.utf8Size) (m.raw.length - 1) (m.token offset :: found) cs
      | none => collect (offset + c.utf8Size) 0 found cs

end Token

/-- The tags of a text in source order. -/
def tokenize (text : List Char) : List Token :=
  (Token.collect 0 0 [] text).reverse

end Mhtml
