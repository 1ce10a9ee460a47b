import Mhtml.Proofs.Token.Scan
import Mhtml.Proofs.Tree.Order

/-!
# The pieces of a document

A document holds its text in pieces: the text between tags, and the tags. An
element gives its opening tag, then the pieces of what it holds, then its closing
tag if it has one; each is listed as the token it was read from. `Piece.cut` lists
the pieces that the tags of a text cut it into. Those tile the text.
-/

namespace Mhtml

/-- A piece of a text. -/
inductive Piece where
  /-- Text between tags. -/
  | text (span : Span)
  /-- A tag. -/
  | tag (token : Token)
deriving DecidableEq, Repr

/-- The spans follow each other without a gap from `start` to `stop`, none of them empty. -/
def Tiles : Nat → Nat → List Span → Prop
  | start, stop, [] => start = stop
  | start, stop, s :: ss => s.start = start ∧ s.start < s.stop ∧ Tiles s.stop stop ss

theorem Tiles.append {start mid stop : Nat} {ss ts : List Span} (first : Tiles start mid ss)
    (last : Tiles mid stop ts) : Tiles start stop (ss ++ ts) := by
  induction ss generalizing start with
  | nil =>
    cases first
    exact last
  | cons s ss ih => exact ⟨first.1, first.2.1, ih first.2.2⟩

namespace Piece

/-- Where a piece stands. -/
def span : Piece → Span
  | text span => span
  | tag token => token.span

/-- The tag that a piece is, if it is one. -/
def token? : Piece → Option Token
  | text _ => none
  | tag token => some token

/-- The text between two offsets, if there is any. -/
def between (start stop : Nat) : List Piece :=
  if start < stop then [text ⟨start, stop⟩] else []

/-- The pieces that tags cut a text into, from `start` to `stop`. -/
def cut (start stop : Nat) : List Token → List Piece
  | [] => between start stop
  | t :: ts => between start t.span.start ++ tag t :: cut t.span.stop stop ts

theorem tiles_between {start stop : Nat} (le : start ≤ stop) :
    Tiles start stop ((between start stop).map span) := by
  unfold between
  split
  next lt => exact ⟨rfl, lt, rfl⟩
  next not => exact Nat.le_antisymm le (Nat.not_lt.1 not)

/-- Tags in order cut a text into pieces that tile it. -/
theorem tiles_cut {start stop : Nat} {ts : List Token} (ordered : Token.InOrder start stop ts) :
    Tiles start stop ((cut start stop ts).map span) := by
  induction ts generalizing start with
  | nil => exact tiles_between ordered
  | cons t ts ih =>
    obtain ⟨first, some, rest⟩ := ordered
    rw [cut, List.map_append]
    exact (tiles_between first).append ⟨rfl, some, ih rest⟩

theorem filterMap_token?_between (start stop : Nat) :
    (between start stop).filterMap token? = [] := by
  unfold between
  split <;> rfl

/-- The tags among the pieces are those that cut the text. -/
theorem filterMap_token?_cut (start stop : Nat) (ts : List Token) :
    (cut start stop ts).filterMap token? = ts := by
  induction ts generalizing start with
  | nil => exact filterMap_token?_between start stop
  | cons t ts ih =>
    rw [cut, List.filterMap_append, filterMap_token?_between, List.nil_append]
    exact congrArg (t :: ·) (ih t.span.stop)

end Piece

namespace ElementTags

/-- The opening tag as a token. -/
def openingToken (e : ElementTags) : Token :=
  ⟨if e.isSelfClosing then .selfClosing else .opening, e.tag.name, e.opening⟩

/-- The closing tag as a token, if there is one. -/
def closingToken? (e : ElementTags) : Option Token :=
  e.closing?.map fun span => ⟨.closing, e.tag.name, span⟩

end ElementTags

/-- The pieces of a forest in document order. -/
def Forest.pieces : Forest → List Piece
  | nil => []
  | text span rest => .text span :: rest.pieces
  | element tags children rest =>
    .tag tags.openingToken ::
      (children.pieces ++ tags.closingToken?.toList.map .tag ++ rest.pieces)

/-- The pieces of an element. -/
def Element.pieces (e : Element) : List Piece :=
  .tag e.openingToken :: (e.children.pieces ++ e.closingToken?.toList.map .tag)

/-- The pieces of a node. -/
def Node.pieces : Node → List Piece
  | text span => [.text span]
  | element e => e.pieces

/-- The pieces of a document: those of its tree, then the stray tags. -/
def Document.pieces (d : Document) : List Piece :=
  d.nodes.pieces ++ d.stray.map .tag

namespace Forest

theorem pieces_element (tags : ElementTags) (children rest : Forest) :
    (element tags children rest).pieces = (Element.mk tags children).pieces ++ rest.pieces := rfl

theorem pieces_ofReversed (nodes : List Node) :
    (ofReversed nodes).pieces = nodes.reverse.flatMap Node.pieces :=
  list_ofReversed rfl (fun node _ => by cases node <;> rfl) nodes

/-- The pieces of an element stand together in those of the forest. -/
theorem exists_pieces_of_mem_preorder {f : Forest} {e : Element} (found : e ∈ f.preorder) :
    ∃ before after, f.pieces = before ++ (e.pieces ++ after) := by
  induction f with
  | nil => cases found
  | text span rest ih =>
    obtain ⟨before, after, same⟩ := ih found
    exact ⟨.text span :: before, after, by rw [pieces, same, List.cons_append]⟩
  | element tags children rest ihc ihr =>
    rw [preorder, List.mem_cons, List.mem_append] at found
    rcases found with rfl | inside | after
    · exact ⟨[], rest.pieces, pieces_element tags children rest⟩
    · obtain ⟨before, after, same⟩ := ihc inside
      refine ⟨.tag tags.openingToken :: before,
        after ++ tags.closingToken?.toList.map .tag ++ rest.pieces, ?_⟩
      rw [pieces, same]
      simp
    · obtain ⟨before, after, same⟩ := ihr after
      exact ⟨(Element.mk tags children).pieces ++ before, after,
        by rw [pieces_element, same, List.append_assoc]⟩

/-- A tag of a forest that does not close an element opens one. -/
theorem tag_mem_pieces_iff {f : Forest} {t : Token} (opens : t.kind ≠ .closing) :
    .tag t ∈ f.pieces ↔ ∃ e ∈ f.preorder, e.openingToken = t := by
  induction f with
  | nil => simp [pieces, preorder]
  | text span rest ih =>
    rw [pieces, preorder, List.mem_cons, ih]
    simp
  | element tags children rest ihc ihr =>
    have notClosing : ¬ Piece.tag t ∈ tags.closingToken?.toList.map Piece.tag := by
      intro inside
      obtain ⟨u, found, same⟩ := List.mem_map.1 inside
      cases same
      obtain ⟨span, -, rfl⟩ := Option.map_eq_some_iff.1 (Option.mem_toList.1 found)
      exact opens rfl
    rw [pieces, preorder]
    simp only [List.mem_cons, List.mem_append, ihc, ihr, Piece.tag.injEq, notClosing, or_false]
    constructor
    · rintro (rfl | ⟨e, inside, rfl⟩ | ⟨e, after, rfl⟩)
      · exact ⟨⟨tags, children⟩, Or.inl rfl, rfl⟩
      · exact ⟨e, Or.inr (Or.inl inside), rfl⟩
      · exact ⟨e, Or.inr (Or.inr after), rfl⟩
    · rintro ⟨e, rfl | inside | after, rfl⟩
      · exact Or.inl rfl
      · exact Or.inr (Or.inl ⟨e, inside, rfl⟩)
      · exact Or.inr (Or.inr ⟨e, after, rfl⟩)

end Forest

end Mhtml
