/-!
# Searching in a text

Where a word first occurs, as a byte offset.
-/

namespace Mhtml

/-- The byte offset of the first occurrence of `word`, the text starting at `offset`. -/
def findWordFrom? (word : List Char) (offset : Nat) : List Char → Option Nat
  | [] => if word.isEmpty then some offset else none
  | c :: cs =>
    if word.isPrefixOf (c :: cs) then some offset
    else findWordFrom? word (offset + c.utf8Size) cs

/-- The byte offset of the first occurrence of `word` in a text. -/
def findWord? (word text : List Char) : Option Nat :=
  findWordFrom? word 0 text

end Mhtml
