import Mhtml.Proofs.Token.Scan
import Mhtml.Tree.Basic

/-!
# Written markup

Markup is a forest as somebody writes it: text, and tags in whatever spelling.
`Markup.render` is the text, `Markup.tree` the tree with the spans that the parts
of the text have, and `Markup.tokens` the tags. `tokenize_render` says that the
tags of the text are those that were written.
-/

namespace Mhtml

/-- A tag as it is written. -/
structure WrittenTag (kind : TagKind) where
  /-- The characters of the tag, its brackets included. -/
  raw : List Char
  /-- The name of its element. -/
  name : String
  /-- The characters spell such a tag. -/
  spelt : Token.IsTag kind name raw

/-- A run of sibling nodes as they are written. -/
inductive Markup where
  /-- No node. -/
  | nil
  /-- Text, then the rest. -/
  | text (chars : List Char) (rest : Markup)
  /-- A self-closing tag, then the rest. -/
  | selfClosing (tag : WrittenTag .selfClosing) (rest : Markup)
  /-- An opening tag that nothing closes, then the rest. -/
  | unclosed (tag : WrittenTag .opening) (rest : Markup)
  /-- An element between its two tags, then the rest. -/
  | paired (opening : WrittenTag .opening) (children : Markup) (closing : WrittenTag .closing)
      (rest : Markup)

namespace Markup

/-- The text of the markup. -/
def render : Markup → List Char
  | nil => []
  | text chars rest => chars ++ rest.render
  | selfClosing tag rest => tag.raw ++ rest.render
  | unclosed tag rest => tag.raw ++ rest.render
  | paired opening children closing rest =>
    opening.raw ++ (children.render ++ (closing.raw ++ rest.render))

/-- Whether the first node is text. -/
def startsWithText : Markup → Bool
  | text .. => true
  | _ => false

/-- The names of the unclosed elements of the run itself. -/
def unclosedNames : Markup → List String
  | nil => []
  | text _ rest => rest.unclosedNames
  | selfClosing _ rest => rest.unclosedNames
  | unclosed tag rest => tag.name :: rest.unclosedNames
  | paired _ _ _ rest => rest.unclosedNames

/-- Text is there, starts no tag and is not followed by more text. Both tags of an element have one
name, and no unclosed element that stands directly inside has that name too. -/
def WellFormed : Markup → Prop
  | nil => True
  | text chars rest =>
    chars ≠ [] ∧ '<' ∉ chars ∧ rest.startsWithText = false ∧ rest.WellFormed
  | selfClosing _ rest => rest.WellFormed
  | unclosed _ rest => rest.WellFormed
  | paired opening children closing rest =>
    opening.name = closing.name ∧ opening.name ∉ children.unclosedNames ∧
      children.WellFormed ∧ rest.WellFormed

/-- The tree of the markup, the markup being at `offset`. -/
def tree (offset : Nat) : Markup → Forest
  | nil => .nil
  | text chars rest =>
    let stop := offset + byteSize chars
    .text ⟨offset, stop⟩ (rest.tree stop)
  | selfClosing tag rest =>
    let stop := offset + byteSize tag.raw
    .element ⟨.ofName tag.name, ⟨offset, stop⟩, .selfClosing⟩ .nil (rest.tree stop)
  | unclosed tag rest =>
    let stop := offset + byteSize tag.raw
    .element ⟨.ofName tag.name, ⟨offset, stop⟩, .unclosed⟩ .nil (rest.tree stop)
  | paired opening children closing rest =>
    let first := offset + byteSize opening.raw
    let last := first + byteSize children.render
    let stop := last + byteSize closing.raw
    .element ⟨.ofName opening.name, ⟨offset, first⟩, .closed ⟨last, stop⟩⟩ (children.tree first)
      (rest.tree stop)

/-- The tags of the markup, the markup being at `offset`. -/
def tokens (offset : Nat) : Markup → List Token
  | nil => []
  | text chars rest => rest.tokens (offset + byteSize chars)
  | selfClosing tag rest =>
    let stop := offset + byteSize tag.raw
    ⟨.selfClosing, tag.name, ⟨offset, stop⟩⟩ :: rest.tokens stop
  | unclosed tag rest =>
    let stop := offset + byteSize tag.raw
    ⟨.opening, tag.name, ⟨offset, stop⟩⟩ :: rest.tokens stop
  | paired opening children closing rest =>
    let first := offset + byteSize opening.raw
    let last := first + byteSize children.render
    let stop := last + byteSize closing.raw
    ⟨.opening, opening.name, ⟨offset, first⟩⟩ ::
      (children.tokens first ++ ⟨.closing, closing.name, ⟨last, stop⟩⟩ :: rest.tokens stop)

/-- The tags of the text are those that were written. -/
theorem scan_render_append {m : Markup} (formed : m.WellFormed) (offset : Nat) (after : List Char) :
    Token.scan offset (m.render ++ after) =
      m.tokens offset ++ Token.scan (offset + byteSize m.render) after := by
  induction m generalizing offset after with
  | nil => simp [render, tokens]
  | text chars rest ih =>
    obtain ⟨-, plain, -, formed⟩ := formed
    rw [render, tokens, List.append_assoc, Token.scan_append_of_not_mem plain, ih formed,
      byteSize_append, Nat.add_assoc]
  | selfClosing tag rest ih =>
    rw [render, tokens, List.append_assoc, tag.spelt.scan_append, ih formed, byteSize_append,
      Nat.add_assoc, List.cons_append]
  | unclosed tag rest ih =>
    rw [render, tokens, List.append_assoc, tag.spelt.scan_append, ih formed, byteSize_append,
      Nat.add_assoc, List.cons_append]
  | paired opening children closing rest ihc ihr =>
    obtain ⟨-, -, inside, formed⟩ := formed
    rw [render, tokens, List.append_assoc, opening.spelt.scan_append, List.append_assoc, ihc inside,
      List.append_assoc, closing.spelt.scan_append, ihr formed]
    simp only [byteSize_append, Nat.add_assoc, List.append_assoc, List.cons_append]

theorem tokenize_render {m : Markup} (formed : m.WellFormed) : tokenize m.render = m.tokens 0 := by
  have scanned := scan_render_append formed 0 []
  rw [List.append_nil, Token.scan, List.append_nil] at scanned
  rw [Token.tokenize_eq_scan, scanned]

end Markup

end Mhtml
