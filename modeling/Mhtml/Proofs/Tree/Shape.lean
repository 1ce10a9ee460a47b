import Mhtml.Proofs.Tree.Account

/-!
# What elements are like

A tag brings at most one new element into a builder's tree, and `Builder.Makes`
says which; all others are moved as they are. So what holds of every new element
holds of all elements of a parsed document. They are regular: their names are
told apart as far as the grammar does, and only elements with both tags hold
anything. And a closing tag has passed over no open element of its name, so no
unclosed element stands directly inside one that is called the same.
-/

namespace Mhtml

/-- What the elements of a parsed document have in common. -/
structure Element.IsRegular (e : Element) : Prop where
  /-- The name stands for itself only. -/
  named : Tag.ofName e.tag.name = e.tag
  /-- An element without a closing tag holds nothing. -/
  childless : e.isPaired = false → e.children = .nil

/-- No unclosed element that stands directly inside has the name of the element. -/
def Element.IsFresh (e : Element) : Prop :=
  ∀ d ∈ e.children.elements, d.ending = .unclosed → d.tag ≠ e.tag

theorem Forest.mem_elements_ofReversed {nodes : List Node} {e : Element} :
    e ∈ (ofReversed nodes).elements ↔ .element e ∈ nodes := by
  have listed : (ofReversed nodes).elements =
      nodes.reverse.flatMap fun node => (cons node nil).elements :=
    list_ofReversed rfl (fun node _ => by cases node <;> rfl) nodes
  rw [listed, List.mem_flatMap]
  constructor
  · rintro ⟨node, there, inside⟩
    cases node with
    | text => cases inside
    | element d =>
      cases List.mem_singleton.1 inside
      exact List.mem_reverse.1 there
  · intro there
    exact ⟨.element e, List.mem_reverse.2 there, List.mem_singleton_self e⟩

theorem Forest.mem_preorder_ofReversed {nodes : List Node} {e : Element} :
    e ∈ (ofReversed nodes).preorder ↔ ∃ node ∈ nodes, e ∈ node.preorder := by
  rw [preorder_ofReversed, List.mem_flatMap]
  simp only [List.mem_reverse]

namespace Builder

variable {b : Builder} {e : Element}

theorem mem_preorder_finish :
    e ∈ b.finish.preorder ↔ ∃ node ∈ b.hoisted b.context.toList, e ∈ node.preorder :=
  Forest.mem_preorder_ofReversed

theorem mem_preorder_push {node : Node} (found : e ∈ (b.push node).finish.preorder) :
    e ∈ node.preorder ∨ e ∈ b.finish.preorder := by
  obtain ⟨n, there, inside⟩ := mem_preorder_finish.1 found
  rw [push, hoisted, List.cons_append] at there
  rcases List.mem_cons.1 there with rfl | old
  · exact Or.inl inside
  · exact Or.inr (mem_preorder_finish.2 ⟨n, old, inside⟩)

theorem mem_preorder_fill {offset : Nat} (found : e ∈ (b.fill offset).finish.preorder) :
    e ∈ b.finish.preorder := by
  unfold fill at found
  split at found
  next =>
    rcases mem_preorder_push found with new | old
    · cases new
    · exact old
  next => exact found

/-- A tag makes an element of its name: one that holds nothing if the tag opens it, and the innermost
open one if the tag closes it. -/
inductive Makes (b : Builder) (t : Token) : Element → Prop where
  | selfClosing (kind : t.kind = .selfClosing) : b.Makes t ⟨⟨.ofName t.name, t.span, .selfClosing⟩, .nil⟩
  | unclosed (kind : t.kind = .opening) : b.Makes t ⟨⟨.ofName t.name, t.span, .unclosed⟩, .nil⟩
  | closed (kind : t.kind = .closing) {inner outer : List OpenElement} {opened : OpenElement}
      (context : b.context.toList = inner ++ opened :: outer) (named : opened.tag = .ofName t.name)
      (others : ∀ i ∈ inner, i.tag ≠ .ofName t.name) :
      b.Makes t ⟨⟨.ofName t.name, opened.opening, .closed t.span⟩, .ofReversed (b.hoisted inner)⟩

theorem mem_preorder_close {t : Token} (kind : t.kind = .closing)
    (found : e ∈ (b.close (Tag.ofName t.name) t).finish.preorder) :
    b.Makes t e ∨ e ∈ b.finish.preorder := by
  rcases b.close_cases (Tag.ofName t.name) t with
    ⟨-, after⟩ | ⟨inner, opened, outer, context, named, others, after⟩
  · rw [after] at found
    exact Or.inr found
  · rw [after] at found
    obtain ⟨n, there, inside⟩ := mem_preorder_finish.1 found
    rw [mem_preorder_finish, hoisted_context b context]
    rw [ended, hoisted, List.cons_append] at there
    rcases List.mem_cons.1 there with rfl | old
    · rcases List.mem_cons.1 inside with rfl | below
      · exact Or.inl (.closed kind context named others)
      · obtain ⟨n, there, inside⟩ := Forest.mem_preorder_ofReversed.1 below
        exact Or.inr ⟨n, List.mem_append_left _ there, inside⟩
    · refine Or.inr ⟨n, List.mem_append_right _ ?_, inside⟩
      rw [OpenElement.abandoned, List.cons_append]
      exact List.mem_cons_of_mem _ old

/-- What the tree holds after a tag was made by the tag, or it was there before. -/
theorem mem_preorder_accept {t : Token} (found : e ∈ (b.accept t).finish.preorder) :
    b.Makes t e ∨ e ∈ b.finish.preorder := by
  unfold accept at found
  cases kind : t.kind with
  | selfClosing =>
    rw [kind] at found
    rcases mem_preorder_push found with new | old
    · cases List.mem_singleton.1 new
      exact Or.inl (.selfClosing kind)
    · exact Or.inr old
  | opening =>
    rw [kind] at found
    dsimp only at found
    obtain ⟨n, there, inside⟩ := mem_preorder_finish.1 found
    rw [hoisted, OpenElements.push, List.flatMap_cons, List.nil_append, OpenElement.abandoned,
      List.cons_append] at there
    rcases List.mem_cons.1 there with rfl | old
    · cases List.mem_singleton.1 inside
      exact Or.inl (.unclosed kind)
    · exact Or.inr (mem_preorder_finish.2 ⟨n, old, inside⟩)
  | closing =>
    rw [kind] at found
    exact mem_preorder_close kind found

theorem Makes.isRegular {t : Token} (made : b.Makes t e) : e.IsRegular := by
  cases made with
  | selfClosing => exact ⟨by rw [Tag.name_ofName], fun _ => rfl⟩
  | unclosed => exact ⟨by rw [Tag.name_ofName], fun _ => rfl⟩
  | closed =>
    exact ⟨by rw [Tag.name_ofName], by simp [ElementTags.isPaired, ElementTags.closing?]⟩

theorem isRegular_step (regular : ∀ e ∈ b.finish.preorder, e.IsRegular) (t : Token) :
    ∀ e ∈ (b.step t).finish.preorder, e.IsRegular := by
  intro e found
  rcases mem_preorder_accept found with new | old
  · exact new.isRegular
  · exact regular e (mem_preorder_fill old)

theorem isRegular_foldl_step (regular : ∀ e ∈ b.finish.preorder, e.IsRegular)
    (tokens : List Token) : ∀ e ∈ (tokens.foldl step b).finish.preorder, e.IsRegular := by
  induction tokens generalizing b with
  | nil => exact regular
  | cons t tokens ih => exact ih (isRegular_step regular t)

end Builder

/-- The elements of a parsed document are regular. -/
theorem isRegular_parse {text : List Char} {e : Element} (found : e ∈ (parse text).nodes.preorder) :
    e.IsRegular := by
  have start : ∀ e ∈ ({} : Builder).finish.preorder, e.IsRegular := by
    intro e there
    cases there
  exact Builder.isRegular_foldl_step start (tokenize text) e (Builder.mem_preorder_fill found)

/-- The name of a regular element is enough to know the element's kind. -/
theorem Element.IsRegular.tag_eq_iff {e : Element} (regular : e.IsRegular) {name : String} :
    e.tag = Tag.ofName name ↔ e.tag.name = name := by
  constructor
  · intro same
    rw [same, Tag.name_ofName]
  · intro same
    rw [← regular.named, same]

namespace Builder

/-! ## Unclosed elements -/

/-- The nodes that keep their place whatever is abandoned: those before the builder, and those before
each open element. -/
def settled (b : Builder) : List Node :=
  b.siblings ++ b.context.toList.flatMap OpenElement.before

/-- Nothing is unclosed yet but what is still open, and no element holds an unclosed one of its own
name. -/
structure Tidy (b : Builder) : Prop where
  ended : ∀ e, .element e ∈ b.settled → e.ending ≠ .unclosed
  fresh : ∀ e ∈ b.finish.preorder, e.IsFresh

variable {b : Builder}

/-- What is hoisted is settled, or it is an element that is abandoned. -/
theorem mem_hoisted_cases {inner outer : List OpenElement} {node : Node}
    (context : b.context.toList = inner ++ outer) (found : node ∈ b.hoisted inner) :
    node ∈ b.settled ∨ ∃ i ∈ inner, node = .element ⟨⟨i.tag, i.opening, .unclosed⟩, .nil⟩ := by
  rw [settled, context, List.mem_append]
  rcases List.mem_append.1 found with sibling | hoisted
  · exact Or.inl (Or.inl sibling)
  · obtain ⟨i, among, there⟩ := List.mem_flatMap.1 hoisted
    rcases List.mem_cons.1 there with rfl | before
    · exact Or.inr ⟨i, among, rfl⟩
    · exact Or.inl (Or.inr (List.mem_flatMap.2 ⟨i, List.mem_append_left outer among, before⟩))

/-- Only what was settled, and what a tag ends, is settled after the tag. -/
theorem mem_settled_accept {t : Token} {e : Element} (found : .element e ∈ (b.accept t).settled) :
    .element e ∈ b.settled ∨ e.ending ≠ .unclosed := by
  unfold accept at found
  cases kind : t.kind with
  | selfClosing =>
    rw [kind] at found
    rcases List.mem_cons.1 found with same | old
    · cases same
      exact Or.inr (by simp)
    · exact Or.inl old
  | opening =>
    rw [kind] at found
    exact Or.inl found
  | closing =>
    rw [kind] at found
    dsimp only at found
    rcases b.close_cases (Tag.ofName t.name) t with
      ⟨-, after⟩ | ⟨inner, opened, outer, context, -, -, after⟩
    · rw [after] at found
      exact Or.inl found
    · rw [after, settled, ended, List.cons_append] at found
      rcases List.mem_cons.1 found with same | old
      · cases same
        exact Or.inr (by simp)
      · refine Or.inl ?_
        rw [settled, context, List.flatMap_append, List.flatMap_cons]
        exact List.mem_append_right _ (List.mem_append_right _ old)

theorem Tidy.isFresh_of_makes (tidy : b.Tidy) {t : Token} {e : Element} (made : b.Makes t e) :
    e.IsFresh := by
  cases made with
  | selfClosing => exact fun d child => by cases child
  | unclosed => exact fun d child => by cases child
  | closed kind context _ others =>
    intro d child unclosed
    rcases mem_hoisted_cases context (Forest.mem_elements_ofReversed.1 child) with
      settled | ⟨i, among, same⟩
    · exact absurd unclosed (tidy.ended d settled)
    · cases same
      exact others i among

theorem Tidy.fill (tidy : b.Tidy) (offset cursor : Nat) :
    ({ b.fill offset with cursor } : Builder).Tidy where
  ended := by
    intro e found
    refine tidy.ended e ?_
    rw [Builder.fill] at found
    split at found
    · rcases List.mem_cons.1 found with same | old
      · cases same
      · exact old
    · exact found
  fresh := fun e found => tidy.fresh e (mem_preorder_fill found)

theorem Tidy.accept (tidy : b.Tidy) (t : Token) : (b.accept t).Tidy where
  ended := by
    intro e found
    rcases mem_settled_accept found with old | new
    · exact tidy.ended e old
    · exact new
  fresh := by
    intro e found
    rcases mem_preorder_accept found with new | old
    · exact tidy.isFresh_of_makes new
    · exact tidy.fresh e old

theorem Tidy.foldl_step (tidy : b.Tidy) (tokens : List Token) : (tokens.foldl step b).Tidy := by
  induction tokens generalizing b with
  | nil => exact tidy
  | cons t tokens ih => exact ih ((tidy.fill t.span.start t.span.stop).accept t)

theorem tidy_empty : ({} : Builder).Tidy where
  ended := fun e found => by cases found
  fresh := fun e found => by cases found

end Builder

/-- In a parsed document no unclosed element stands directly inside one of its name. -/
theorem isFresh_parse {text : List Char} {e : Element} (found : e ∈ (parse text).nodes.preorder) :
    e.IsFresh :=
  (Builder.tidy_empty.foldl_step (tokenize text)).fresh e (Builder.mem_preorder_fill found)

end Mhtml
