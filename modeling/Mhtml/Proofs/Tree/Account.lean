import Mhtml.Proofs.Tree.Pieces

/-!
# What a builder accounts for

A builder loses nothing and repeats nothing. At every moment the document that it
would give holds exactly the pieces of the text used so far. A tag adds the text
before it and itself; it goes to the end of the tree's pieces, or to the stray
tags if it closes what is not open. So a parsed document holds the pieces that
the tags of its text cut it into: `parse_holds` is the statement the rest builds on.
-/

namespace Mhtml

/-- A document holds some pieces, given in source order: each in its tree or among the stray
tags, in that order, and stray tags are closing ones. -/
structure Document.Holds (d : Document) (all : List Piece) : Prop where
  kept : d.nodes.pieces.Sublist all
  strays : (d.stray.map Piece.tag).Sublist all
  perm : d.pieces.Perm all
  closing : ∀ t ∈ d.stray, t.kind = .closing

namespace Document.Holds

variable {d d' : Document} {all : List Piece}

/-- Pieces that come to the end of the tree. -/
theorem keep (holds : d.Holds all) {more : List Piece} (nodes : d'.nodes.pieces = d.nodes.pieces ++ more)
    (stray : d'.stray = d.stray) : d'.Holds (all ++ more) where
  kept := by
    rw [nodes]
    exact holds.kept.append (List.Sublist.refl more)
  strays := by
    rw [stray]
    exact holds.strays.trans (List.sublist_append_left all more)
  perm := by
    rw [Document.pieces, nodes, stray, List.append_assoc]
    refine (List.perm_append_comm.append_left _).trans ?_
    rw [← List.append_assoc]
    exact holds.perm.append_right more
  closing := by
    rw [stray]
    exact holds.closing

/-- A closing tag that comes to the end of the stray ones. -/
theorem set_aside (holds : d.Holds all) {t : Token} (nodes : d'.nodes.pieces = d.nodes.pieces)
    (stray : d'.stray = d.stray ++ [t]) (kind : t.kind = .closing) : d'.Holds (all ++ [.tag t]) where
  kept := by
    rw [nodes]
    exact holds.kept.trans (List.sublist_append_left all _)
  strays := by
    rw [stray, List.map_append]
    exact holds.strays.append (List.Sublist.refl _)
  perm := by
    rw [Document.pieces, nodes, stray, List.map_append, ← List.append_assoc]
    exact holds.perm.append_right _
  closing := by
    intro u found
    rw [stray, List.mem_append, List.mem_singleton] at found
    rcases found with before | rfl
    · exact holds.closing u before
    · exact kind

end Document.Holds

namespace Builder

/-- The document that a builder would give now. -/
def document (b : Builder) : Document :=
  ⟨b.finish, b.stray.reverse⟩

/-- A closing tag that no open element has the name of. -/
def Strays (b : Builder) (t : Token) : Prop :=
  t.kind = .closing ∧ ∀ e ∈ b.context.toList, e.tag ≠ Tag.ofName t.name

/-- The builder once `t` has closed `opened`, the open elements inside that one being abandoned. -/
def ended (b : Builder) (tag : Tag) (t : Token) (inner : List OpenElement) (opened : OpenElement)
    (outer : OpenElements) : Builder :=
  { b with
    siblings := .element ⟨⟨tag, opened.opening, .closed t.span⟩,
      Forest.ofReversed (b.hoisted inner)⟩ :: opened.before
    context := outer }

/-- What a closing tag can do: nothing is open for it, or it ends the innermost element of its
name. -/
theorem close_cases (b : Builder) (tag : Tag) (t : Token) :
    ((∀ e ∈ b.context.toList, e.tag ≠ tag) ∧ b.close tag t = { b with stray := t :: b.stray }) ∨
    ∃ inner opened outer, b.context.toList = inner ++ opened :: outer.toList ∧ opened.tag = tag ∧
      (∀ e ∈ inner, e.tag ≠ tag) ∧ b.close tag t = b.ended tag t inner opened outer := by
  cases found : b.context.split? tag with
  | none =>
    refine Or.inl ⟨(OpenElements.split?_eq_none_iff b.context tag).1 found, ?_⟩
    rw [close, found]
  | some parts =>
    obtain ⟨inner, opened, outer⟩ := parts
    obtain ⟨context, same, others⟩ := OpenElements.of_split?_eq_some found
    refine Or.inr ⟨inner, opened, outer, context, same, others, ?_⟩
    rw [close, found, ended]

/-- A list is split in one way only at its first element of a name. -/
theorem split_unique {inner inner' outer outer' : List OpenElement} {e e' : OpenElement} {tag : Tag}
    (same : inner ++ e :: outer = inner' ++ e' :: outer') (named : e.tag = tag) (named' : e'.tag = tag)
    (others : ∀ i ∈ inner, i.tag ≠ tag) (others' : ∀ i ∈ inner', i.tag ≠ tag) :
    inner = inner' ∧ e = e' ∧ outer = outer' := by
  induction inner generalizing inner' with
  | nil =>
    cases inner' with
    | nil =>
      cases same
      exact ⟨rfl, rfl, rfl⟩
    | cons i inner' =>
      cases same
      exact absurd named (others' e List.mem_cons_self)
  | cons i inner ih =>
    cases inner' with
    | nil =>
      cases same
      exact absurd named' (others e' List.mem_cons_self)
    | cons j inner' =>
      rw [List.cons_append, List.cons_append, List.cons.injEq] at same
      obtain ⟨rfl, same⟩ := same
      obtain ⟨rfl, rest⟩ := ih same (fun i h => others i (List.mem_cons_of_mem _ h))
        fun i h => others' i (List.mem_cons_of_mem _ h)
      exact ⟨rfl, rest⟩

/-- What would be hoisted from the innermost open elements, and what from the others. -/
theorem hoisted_context (b : Builder) {inner outer : List OpenElement} {opened : OpenElement}
    (context : b.context.toList = inner ++ opened :: outer) :
    b.hoisted b.context.toList =
      b.hoisted inner ++ (opened.abandoned ++ outer.flatMap OpenElement.abandoned) := by
  rw [context, hoisted, hoisted, List.flatMap_append, List.flatMap_cons, List.append_assoc]

theorem pieces_finish (b : Builder) :
    b.finish.pieces = (b.hoisted b.context.toList).reverse.flatMap Node.pieces :=
  Forest.pieces_ofReversed _

theorem pieces_push (b : Builder) (node : Node) :
    (b.push node).finish.pieces = b.finish.pieces ++ node.pieces := by
  rw [pieces_finish, pieces_finish, push, hoisted, hoisted, List.cons_append, List.reverse_cons,
    List.flatMap_append, List.flatMap_singleton]

theorem pieces_fill (b : Builder) (offset : Nat) :
    (b.fill offset).finish.pieces = b.finish.pieces ++ Piece.between b.cursor offset := by
  unfold fill Piece.between
  split
  next => exact pieces_push b _
  next => rw [List.append_nil]

theorem stray_fill (b : Builder) (offset : Nat) : (b.fill offset).stray = b.stray := by
  unfold fill
  split <;> rfl

theorem context_fill (b : Builder) (offset : Nat) : (b.fill offset).context = b.context := by
  unfold fill
  split <;> rfl

/-- An abandoned element is its opening tag and nothing more. -/
theorem pieces_abandoned (e : OpenElement) :
    e.abandoned.reverse.flatMap Node.pieces =
      e.before.reverse.flatMap Node.pieces ++ [.tag ⟨.opening, e.tag.name, e.opening⟩] := by
  rw [OpenElement.abandoned, List.reverse_cons, List.flatMap_append, List.flatMap_singleton]
  rfl

theorem pieces_hoisted_push (b : Builder) (tag : Tag) (t : Token) (kind : t.kind = .opening)
    (named : tag = Tag.ofName t.name) :
    ({ b with siblings := [], context := b.context.push ⟨tag, t.span, b.siblings⟩ } :
      Builder).finish.pieces = b.finish.pieces ++ [.tag t] := by
  have token : (⟨.opening, tag.name, t.span⟩ : Token) = t := by
    rw [named, Tag.name_ofName, ← kind]
  rw [pieces_finish, pieces_finish, hoisted, hoisted, OpenElements.push, List.flatMap_cons,
    List.nil_append, List.reverse_append, List.flatMap_append, pieces_abandoned, token,
    List.reverse_append, List.flatMap_append, List.append_assoc]

/-- Closing an element puts its closing tag after all that stands before it. -/
theorem pieces_ended (b : Builder) {inner : List OpenElement} {opened : OpenElement}
    {outer : OpenElements} {tag : Tag} {t : Token}
    (context : b.context.toList = inner ++ opened :: outer.toList) (same : opened.tag = tag)
    (kind : t.kind = .closing) (named : tag = Tag.ofName t.name) :
    (b.ended tag t inner opened outer).finish.pieces = b.finish.pieces ++ [.tag t] := by
  have token : (⟨.closing, tag.name, t.span⟩ : Token) = t := by
    rw [named, Tag.name_ofName, ← kind]
  have closed : (Element.mk ⟨tag, opened.opening, .closed t.span⟩
      (Forest.ofReversed (b.hoisted inner))).pieces =
      .tag ⟨.opening, opened.tag.name, opened.opening⟩ ::
        ((b.hoisted inner).reverse.flatMap Node.pieces ++ [.tag t]) := by
    rw [Element.pieces, Forest.pieces_ofReversed, same]
    simp only [ElementTags.closingToken?, ElementTags.closing?, Option.map_some, token,
      Option.toList_some, List.map_cons, List.map_nil]
    rfl
  rw [pieces_finish, pieces_finish, hoisted_context b context, ended, hoisted]
  simp only [List.reverse_append, List.reverse_cons, List.cons_append, List.flatMap_append,
    List.flatMap_cons, List.flatMap_nil, List.append_nil, pieces_abandoned, Node.pieces, closed,
    List.append_assoc, List.nil_append]

/-- A tag that does not stray comes to the end of the tree's pieces. -/
theorem pieces_accept (b : Builder) {t : Token} (stays : ¬ b.Strays t) :
    (b.accept t).finish.pieces = b.finish.pieces ++ [.tag t] ∧ (b.accept t).stray = b.stray := by
  unfold accept
  cases kind : t.kind with
  | selfClosing =>
    have token : (⟨.selfClosing, (Tag.ofName t.name).name, t.span⟩ : Token) = t := by
      rw [Tag.name_ofName, ← kind]
    have piece : (Node.element ⟨⟨Tag.ofName t.name, t.span, .selfClosing⟩, .nil⟩).pieces =
        [.tag t] := congrArg (fun u => [Piece.tag u]) token
    refine ⟨?_, rfl⟩
    dsimp only
    rw [pieces_push, piece]
  | opening => exact ⟨pieces_hoisted_push b _ t kind rfl, rfl⟩
  | closing =>
    dsimp only
    rcases b.close_cases (Tag.ofName t.name) t with
      ⟨missing, -⟩ | ⟨inner, opened, outer, context, same, -, after⟩
    · exact absurd ⟨kind, missing⟩ stays
    · rw [after]
      exact ⟨pieces_ended b context same kind rfl, rfl⟩

/-- A tag that strays leaves the tree as it is. -/
theorem accept_of_strays (b : Builder) {t : Token} (strays : b.Strays t) :
    b.accept t = { b with stray := t :: b.stray } := by
  obtain ⟨kind, missing⟩ := strays
  rw [accept, kind]
  dsimp only
  rcases b.close_cases (Tag.ofName t.name) t with ⟨-, after⟩ | ⟨inner, opened, outer, context, same, -⟩
  · exact after
  · refine absurd same (missing opened ?_)
    rw [context]
    exact List.mem_append_right inner List.mem_cons_self

theorem cursor_accept (b : Builder) (t : Token) : (b.accept t).cursor = b.cursor := by
  unfold accept
  cases t.kind with
  | selfClosing => rfl
  | opening => rfl
  | closing =>
    dsimp only
    rcases b.close_cases (Tag.ofName t.name) t with ⟨-, after⟩ | ⟨inner, opened, outer, -, -, -, after⟩
    · rw [after]
    · rw [after, ended]

theorem cursor_step (b : Builder) (t : Token) : (b.step t).cursor = t.span.stop := by
  rw [step, cursor_accept]

/-- The text up to an offset is accounted for once it is in the tree. -/
theorem holds_fill {b : Builder} {used : List Piece} (holds : b.document.Holds used) (offset : Nat) :
    (b.fill offset).document.Holds (used ++ Piece.between b.cursor offset) :=
  holds.keep (pieces_fill b offset) (by rw [document, document, stray_fill])

/-- A step accounts for the text before a tag and the tag. -/
theorem holds_step {b : Builder} {used : List Piece} (holds : b.document.Holds used) (t : Token) :
    (b.step t).document.Holds (used ++ (Piece.between b.cursor t.span.start ++ [.tag t])) := by
  have filled : ({ b.fill t.span.start with cursor := t.span.stop } : Builder).document.Holds
      (used ++ Piece.between b.cursor t.span.start) := holds_fill holds t.span.start
  rw [← List.append_assoc, step]
  by_cases strays : ({ b.fill t.span.start with cursor := t.span.stop } : Builder).Strays t
  · have after := accept_of_strays _ strays
    refine filled.set_aside (by rw [after]; rfl) ?_ strays.1
    rw [after, document, document, List.reverse_cons]
  · obtain ⟨nodes, stray⟩ := pieces_accept _ strays
    exact filled.keep nodes (by rw [document, document, stray])

/-- A run over tags in turn accounts for all that they cut the text into. -/
theorem holds_foldl_step {b : Builder} {used : List Piece} (holds : b.document.Holds used)
    (size : Nat) (tokens : List Token) :
    ((tokens.foldl step b).fill size).document.Holds (used ++ Piece.cut b.cursor size tokens) := by
  induction tokens generalizing b used with
  | nil => exact holds_fill holds size
  | cons t tokens ih =>
    have rest := ih (holds_step holds t)
    rw [cursor_step] at rest
    rw [List.foldl_cons, Piece.cut]
    simpa using rest

end Builder

theorem holds_empty : (({} : Builder).document).Holds [] where
  kept := List.Sublist.refl []
  strays := List.Sublist.refl []
  perm := List.Perm.refl []
  closing := by
    intro t found
    cases found

/-- A parsed document holds what the tags of its text cut it into. -/
theorem parse_holds (text : List Char) :
    (parse text).Holds (Piece.cut 0 (byteSize text) (tokenize text)) :=
  Builder.holds_foldl_step holds_empty (byteSize text) (tokenize text)

end Mhtml
