import Mhtml.Proofs.Source.Lowered
import Mhtml.Proofs.Tree.Account

/-!
# The elements of a tree without its text

The skeleton of a forest has its elements in their places, and no text. It may be
moved on by some bytes, which moves every tag. Line feeds before a text move its
tags on and add to its text only, so the tree of a text moved down has the
skeleton of the tree that it had: `skeleton_parse_lowered`. Text is all that two
builders may differ in on the way there, which is `Builder.Follows`.
-/

namespace Mhtml

/-! ## Tags -/

/-- The tag `k` bytes further on. -/
def Token.shift (k : Nat) (t : Token) : Token :=
  ⟨t.kind, t.name, t.span.shift k⟩

namespace Token

@[simp] theorem kind_shift (k : Nat) (t : Token) : (t.shift k).kind = t.kind := rfl

@[simp] theorem name_shift (k : Nat) (t : Token) : (t.shift k).name = t.name := rfl

@[simp] theorem span_shift (k : Nat) (t : Token) : (t.shift k).span = t.span.shift k := rfl

/-- A tag that starts further on is the same otherwise. -/
theorem startingAt?_add (k offset : Nat) (cs : List Char) :
    startingAt? (offset + k) cs = (startingAt? offset cs).map (shift k) := by
  rw [startingAt?, startingAt?, Option.map_map]
  refine Option.map_congr fun m _ => ?_
  simp only [Function.comp, Match.token, shift, Span.shift, Nat.add_right_comm offset k]

theorem scan_add (k offset : Nat) (cs : List Char) :
    scan (offset + k) cs = (scan offset cs).map (shift k) := by
  induction cs generalizing offset with
  | nil => rfl
  | cons c cs ih =>
    rw [scan, scan, startingAt?_add, Nat.add_right_comm, ih, List.map_append]
    cases startingAt? offset (c :: cs) <;> rfl

end Token

/-- The tags of a text move on by the line feeds before it. -/
theorem tokenize_lowered (k : Nat) (text : List Char) :
    tokenize (lowered k text) = (tokenize text).map (Token.shift k) := by
  have plain : '<' ∉ List.replicate k '\n' := by
    intro found
    exact absurd (List.eq_of_mem_replicate found) (by decide)
  have size : byteSize (List.replicate k '\n') = k := by
    have whole := byteSize_lowered k []
    rwa [lowered, List.append_nil, byteSize_nil, Nat.zero_add] at whole
  rw [Token.tokenize_eq_scan, Token.tokenize_eq_scan, lowered, Token.scan_append_of_not_mem plain,
    size, Token.scan_add]

/-! ## Elements -/

/-- The ending `k` bytes further on. -/
def Ending.shift (k : Nat) : Ending → Ending
  | selfClosing => selfClosing
  | unclosed => unclosed
  | closed span => closed (span.shift k)

/-- The tags of an element `k` bytes further on. -/
def ElementTags.shift (k : Nat) (e : ElementTags) : ElementTags :=
  ⟨e.tag, e.opening.shift k, e.ending.shift k⟩

namespace ElementTags

variable (k : Nat) (e : ElementTags)

@[simp] theorem tag_shift : (e.shift k).tag = e.tag := rfl

@[simp] theorem opening_shift : (e.shift k).opening = e.opening.shift k := rfl

@[simp] theorem closing?_shift : (e.shift k).closing? = e.closing?.map (Span.shift k) := by
  obtain ⟨tag, opening, ending⟩ := e
  cases ending <;> rfl

@[simp] theorem shift_zero : e.shift 0 = e := by
  obtain ⟨tag, opening, ending⟩ := e
  cases ending <;> rfl

@[simp] theorem isPaired_shift : (e.shift k).isPaired = e.isPaired := by
  rw [isPaired, closing?_shift, Option.isSome_map, isPaired]

@[simp] theorem isSelfClosing_shift : (e.shift k).isSelfClosing = e.isSelfClosing := by
  obtain ⟨tag, opening, ending⟩ := e
  cases ending <;> rfl

@[simp] theorem inner?_shift : (e.shift k).inner? = e.inner?.map (Span.shift k) := by
  rw [inner?, closing?_shift, inner?]
  cases e.closing? <;> rfl

@[simp] theorem outer_shift : (e.shift k).outer = e.outer.shift k := by
  rw [outer, closing?_shift, outer]
  cases e.closing? <;> rfl

end ElementTags

/-- The elements of a forest without its text, `k` bytes further on. -/
def Forest.skeleton (k : Nat) : Forest → Forest
  | nil => nil
  | text _ rest => rest.skeleton k
  | element tags children rest => element (tags.shift k) (children.skeleton k) (rest.skeleton k)

/-- The element without the text that it holds, `k` bytes further on. -/
def Element.skeleton (k : Nat) (e : Element) : Element :=
  ⟨e.toElementTags.shift k, e.children.skeleton k⟩

/-- The node if it is an element, without the text that it holds and `k` bytes further on. -/
def Node.skeleton? (k : Nat) : Node → Option Node
  | text _ => none
  | element e => some (element (e.skeleton k))

/-- The open element without text before it, `k` bytes further on. -/
def OpenElement.skeleton (k : Nat) (e : OpenElement) : OpenElement :=
  ⟨e.tag, e.opening.shift k, e.before.filterMap (Node.skeleton? k)⟩

/-- The document without its text, `k` bytes further on. -/
def Document.skeleton (k : Nat) (d : Document) : Document :=
  ⟨d.nodes.skeleton k, d.stray.map (Token.shift k)⟩

namespace Forest

theorem preorder_skeleton (k : Nat) (f : Forest) :
    (f.skeleton k).preorder = f.preorder.map (Element.skeleton k) := by
  induction f with
  | nil => rfl
  | text _ rest ih => exact ih
  | element tags children rest ihc ihr =>
    simp only [skeleton, preorder, ihc, ihr, List.map_cons, List.map_append]
    rfl

theorem skeleton_cons (k : Nat) (node : Node) (f : Forest) :
    (cons node f).skeleton k = (node.skeleton? k).elim (f.skeleton k) (cons · (f.skeleton k)) := by
  cases node <;> rfl

/-- The skeleton is made of the skeletons of the nodes. -/
theorem skeleton_ofReversed (k : Nat) (nodes : List Node) :
    (ofReversed nodes).skeleton k = ofReversed (nodes.filterMap (Node.skeleton? k)) :=
  map_ofReversed rfl (skeleton_cons k) nodes

end Forest

theorem Element.descendants_skeleton (k : Nat) (e : Element) :
    (e.skeleton k).descendants = e.descendants.map (Element.skeleton k) := by
  rw [descendants_eq, descendants_eq]
  exact Forest.preorder_skeleton k e.children

theorem Document.descendants_skeleton (k : Nat) (d : Document) :
    (d.skeleton k).descendants = d.descendants.map (Element.skeleton k) := by
  rw [descendants_eq, descendants_eq]
  exact Forest.preorder_skeleton k d.nodes

/-! ## Builders -/

theorem OpenElement.filterMap_abandoned (k : Nat) (e : OpenElement) :
    e.abandoned.filterMap (Node.skeleton? k) = (e.skeleton k).abandoned := rfl

namespace Builder

/-- The builder `b'` has what `b` has, `k` bytes further on, apart from text. -/
structure Follows (k : Nat) (b b' : Builder) : Prop where
  siblings : b'.siblings.filterMap (Node.skeleton? 0) = b.siblings.filterMap (Node.skeleton? k)
  context : b'.context.toList.map (OpenElement.skeleton 0) =
    b.context.toList.map (OpenElement.skeleton k)
  stray : b'.stray = b.stray.map (Token.shift k)

theorem siblings_fill (k offset : Nat) (b : Builder) :
    (b.fill offset).siblings.filterMap (Node.skeleton? k) =
      b.siblings.filterMap (Node.skeleton? k) := by
  unfold fill
  split <;> rfl

/-- What is hoisted is the same apart from text, if what it is hoisted from is. -/
theorem filterMap_hoisted (k : Nat) (b : Builder) (inner : List OpenElement) :
    (b.hoisted inner).filterMap (Node.skeleton? k) =
      b.siblings.filterMap (Node.skeleton? k) ++
        (inner.map (OpenElement.skeleton k)).flatMap OpenElement.abandoned := by
  rw [hoisted, List.filterMap_append, List.filterMap_flatMap, List.flatMap_map]
  simp only [OpenElement.filterMap_abandoned]

namespace Follows

variable {k : Nat} {b b' : Builder}

/-- Text makes no difference, and neither does how far the text has been used. -/
theorem fill (follows : Follows k b b') (offset offset' cursor cursor' : Nat) :
    Follows k { b.fill offset with cursor } { b'.fill offset' with cursor := cursor' } where
  siblings := by
    show (b'.fill offset').siblings.filterMap _ = (b.fill offset).siblings.filterMap _
    rw [siblings_fill, siblings_fill, follows.siblings]
  context := by
    show (b'.fill offset').context.toList.map _ = (b.fill offset).context.toList.map _
    rw [context_fill, context_fill, follows.context]
  stray := by
    show (b'.fill offset').stray = (b.fill offset).stray.map _
    rw [stray_fill, stray_fill, follows.stray]

theorem hoisted (follows : Follows k b b') {inner inner' : List OpenElement}
    (same : inner'.map (OpenElement.skeleton 0) = inner.map (OpenElement.skeleton k)) :
    (b'.hoisted inner').filterMap (Node.skeleton? 0) =
      (b.hoisted inner).filterMap (Node.skeleton? k) := by
  rw [filterMap_hoisted, filterMap_hoisted, follows.siblings, same]

/-- The open elements of the two builders have the same names. -/
theorem missing_iff (follows : Follows k b b') (tag : Tag) :
    (∀ e ∈ b'.context.toList, e.tag ≠ tag) ↔ ∀ e ∈ b.context.toList, e.tag ≠ tag := by
  have names := congrArg (List.map OpenElement.tag) follows.context
  rw [List.map_map, List.map_map] at names
  have among : tag ∈ b'.context.toList.map OpenElement.tag ↔
      tag ∈ b.context.toList.map OpenElement.tag := Iff.of_eq (congrArg (tag ∈ ·) names)
  simpa [List.mem_map] using not_congr among

/-- A closing tag finds the same element open in both builders. -/
theorem close (follows : Follows k b b') (tag : Tag) (t : Token) :
    Follows k (b.close tag t) (b'.close tag (t.shift k)) := by
  have missing := follows.missing_iff tag
  rcases b.close_cases tag t with
    ⟨none, after⟩ | ⟨inner, opened, outer, context, named, others, after⟩
  · rcases b'.close_cases tag (t.shift k) with
      ⟨none', after'⟩ | ⟨inner', opened', outer', context', named', -⟩
    · rw [after, after']
      exact ⟨follows.siblings, follows.context, congrArg (t.shift k :: ·) follows.stray⟩
    · refine absurd named' (missing.2 none opened' ?_)
      rw [context']
      exact List.mem_append_right inner' List.mem_cons_self
  · rcases b'.close_cases tag (t.shift k) with
      ⟨none', after'⟩ | ⟨inner', opened', outer', context', named', others', after'⟩
    · refine absurd named (missing.1 none' opened ?_)
      rw [context]
      exact List.mem_append_right inner List.mem_cons_self
    · -- Names are the same in a skeleton, so both contexts are split at the same place.
      have split := follows.context
      rw [context, context', List.map_append, List.map_append, List.map_cons, List.map_cons] at split
      obtain ⟨sameInner, sameOpened, sameOuter⟩ := split_unique split named' named
        (List.forall_mem_map.2 others') (List.forall_mem_map.2 others)
      have opening : opened'.opening = opened.opening.shift k :=
        congrArg OpenElement.opening sameOpened
      have before : opened'.before.filterMap (Node.skeleton? 0) =
          opened.before.filterMap (Node.skeleton? k) := congrArg OpenElement.before sameOpened
      have children : (Forest.ofReversed (b'.hoisted inner')).skeleton 0 =
          (Forest.ofReversed (b.hoisted inner)).skeleton k := by
        rw [Forest.skeleton_ofReversed, Forest.skeleton_ofReversed, follows.hoisted sameInner]
      rw [after, after']
      refine ⟨?_, sameOuter, follows.stray⟩
      simp only [ended, List.filterMap_cons, Node.skeleton?, Element.skeleton, children, before,
        opening]
      rfl

theorem accept (follows : Follows k b b') (t : Token) :
    Follows k (b.accept t) (b'.accept (t.shift k)) := by
  unfold Builder.accept
  rw [Token.kind_shift, Token.name_shift]
  cases t.kind with
  | selfClosing =>
    refine ⟨?_, follows.context, follows.stray⟩
    exact congrArg (Node.element _ :: ·) follows.siblings
  | opening =>
    refine ⟨rfl, ?_, follows.stray⟩
    simp only [OpenElements.push, List.map_cons, follows.context, OpenElement.skeleton,
      follows.siblings]
    rfl
  | closing => exact follows.close (Tag.ofName t.name) t

theorem step (follows : Follows k b b') (t : Token) :
    Follows k (b.step t) (b'.step (t.shift k)) :=
  (follows.fill t.span.start (t.shift k).span.start t.span.stop (t.shift k).span.stop).accept t

theorem foldl_step (follows : Follows k b b') (tokens : List Token) :
    Follows k (tokens.foldl Builder.step b) ((tokens.map (Token.shift k)).foldl Builder.step b') := by
  induction tokens generalizing b b' with
  | nil => exact follows
  | cons t tokens ih => exact ih (follows.step t)

theorem document (follows : Follows k b b') :
    b'.document.skeleton 0 = b.document.skeleton k := by
  have nodes : b'.finish.skeleton 0 = b.finish.skeleton k := by
    rw [finish, finish, Forest.skeleton_ofReversed, Forest.skeleton_ofReversed,
      follows.hoisted follows.context]
  have unmoved : ∀ ts : List Token, ts.map (Token.shift 0) = ts := List.map_id
  simp only [Document.skeleton, Builder.document, nodes, unmoved, follows.stray, List.map_reverse]

end Follows

end Builder

/-- A text moved down has the tree that it had, apart from its text. -/
theorem skeleton_parse_lowered (k : Nat) (text : List Char) :
    (parse (lowered k text)).skeleton 0 = (parse text).skeleton k := by
  have start : Builder.Follows k {} {} := ⟨rfl, rfl, rfl⟩
  have run := start.foldl_step (tokenize text)
  rw [← tokenize_lowered] at run
  exact (run.fill (byteSize text) (byteSize (lowered k text)) 0 0).document

end Mhtml
