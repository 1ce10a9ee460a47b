import Mhtml.Proofs.Tree.Account
import Mhtml.Proofs.Tree.Markup

/-!
# Parsing undoes rendering

Reading the text of well-formed markup gives the tree of the markup back:
`parse_render`. The induction is over the markup, with any builder before it. An
unclosed element stays open and takes in its later siblings, so a run of nodes is
not there as a run until something around it ends; `Builder.Grown` says what the
builder then gives.
-/

namespace Mhtml

namespace Forest

theorem ofReversed_reverse_toNodes (f : Forest) : ofReversed f.toNodes.reverse = f := by
  rw [ofReversed, List.foldl_reverse]
  induction f with
  | nil => rfl
  | text span rest ih => rw [toNodes, List.foldr_cons, ih, cons]
  | element tags children rest _ ih => rw [toNodes, List.foldr_cons, ih, cons]

end Forest

namespace Builder

/-- The builder once it has used the text up to an offset. -/
def reach (b : Builder) (offset : Nat) : Builder :=
  { b.fill offset with cursor := offset }

theorem cursor_reach (b : Builder) (offset : Nat) : (b.reach offset).cursor = offset := rfl

theorem reach_cursor {b : Builder} {offset : Nat} (there : b.cursor = offset) :
    b.reach offset = b := by
  subst there
  rw [reach, fill, if_neg (Nat.lt_irrefl _)]

theorem siblings_reach {b : Builder} {offset : Nat} (before : b.cursor < offset) :
    (b.reach offset).siblings = .text ⟨b.cursor, offset⟩ :: b.siblings := by
  rw [reach, fill, if_pos before, push]

theorem context_reach (b : Builder) (offset : Nat) : (b.reach offset).context = b.context :=
  context_fill b offset

theorem stray_reach (b : Builder) (offset : Nat) : (b.reach offset).stray = b.stray :=
  stray_fill b offset

/-- A tag takes in the text before it, be it in the tree already or not. -/
theorem step_reach (b : Builder) (t : Token) : (b.reach t.span.start).step t = b.step t := by
  rw [step, fill, reach, if_neg (Nat.lt_irrefl _)]
  rfl

/-- Where a tag starts the markup, or nothing does, text before it may be used first. -/
theorem foldl_step_reach (b : Builder) {m : Markup} (offset : Nat) (tag : m.startsWithText = false) :
    ((m.tokens offset).foldl step (b.reach offset)).reach (offset + byteSize m.render) =
      ((m.tokens offset).foldl step b).reach (offset + byteSize m.render) := by
  cases m with
  | nil => exact reach_cursor rfl
  | text => cases tag
  | selfClosing tag rest => rw [Markup.tokens, List.foldl_cons, List.foldl_cons, ← step_reach b]
  | unclosed tag rest => rw [Markup.tokens, List.foldl_cons, List.foldl_cons, ← step_reach b]
  | paired opening children closing rest =>
    rw [Markup.tokens, List.foldl_cons, List.foldl_cons, ← step_reach b]

/-- The builder `r` is `b` after some markup at `offset`: once what the markup left open is
abandoned, the nodes of the markup follow those that `b` had. -/
structure Grown (b r : Builder) (offset : Nat) (m : Markup) : Prop where
  stray : r.stray = b.stray
  context : ∃ opened, r.context.toList = opened ++ b.context.toList ∧
    (∀ e ∈ opened, ∃ name ∈ m.unclosedNames, e.tag = Tag.ofName name) ∧
    r.hoisted opened = (m.tree offset).toNodes.reverse ++ b.siblings

theorem fill_cursor {b : Builder} {offset : Nat} (there : b.cursor = offset) : b.fill offset = b := by
  rw [fill, there, if_neg (Nat.lt_irrefl offset)]

theorem step_selfClosing (b : Builder) (name : String) (span : Span) (there : b.cursor = span.start) :
    b.step ⟨.selfClosing, name, span⟩ =
      { b with
        cursor := span.stop
        siblings := .element ⟨⟨.ofName name, span, .selfClosing⟩, .nil⟩ :: b.siblings } := by
  rw [step, fill_cursor there]
  rfl

theorem step_opening (b : Builder) (name : String) (span : Span) (there : b.cursor = span.start) :
    b.step ⟨.opening, name, span⟩ =
      { b with
        cursor := span.stop
        siblings := []
        context := b.context.push ⟨.ofName name, span, b.siblings⟩ } := by
  rw [step, fill_cursor there]
  rfl

/-- A closing tag ends the innermost open element of its name, known by what is around it. -/
theorem step_closing (b : Builder) (name : String) (span : Span) (there : b.cursor = span.start)
    {inner outer : List OpenElement} {opened : OpenElement}
    (context : b.context.toList = inner ++ opened :: outer) (named : opened.tag = Tag.ofName name)
    (others : ∀ e ∈ inner, e.tag ≠ Tag.ofName name) :
    ∃ left : OpenElements, left.toList = outer ∧
      b.step ⟨.closing, name, span⟩ =
        { b with
          cursor := span.stop
          siblings := .element ⟨⟨.ofName name, opened.opening, .closed span⟩,
            Forest.ofReversed (b.hoisted inner)⟩ :: opened.before
          context := left } := by
  rw [step, fill_cursor there]
  change ∃ left : OpenElements, left.toList = outer ∧
    ({ b with cursor := span.stop } : Builder).close _ _ = _
  rcases close_cases { b with cursor := span.stop } (Tag.ofName name) ⟨.closing, name, span⟩ with
    ⟨missing, -⟩ | ⟨inner', opened', left, context', named', others', after⟩
  · refine absurd named (missing opened ?_)
    dsimp only
    rw [context]
    exact List.mem_append_right inner List.mem_cons_self
  · obtain ⟨rfl, rfl, same⟩ := split_unique (context.symm.trans context') named named' others others'
    exact ⟨left, same.symm, after⟩

namespace Grown

variable {b r : Builder} {offset : Nat}

theorem nil (there : b.cursor = offset) : Grown b (b.reach offset) offset .nil where
  stray := stray_reach b offset
  context := by
    rw [reach_cursor there]
    exact ⟨[], rfl, by simp, by simp [hoisted, Markup.tree, Forest.toNodes]⟩

theorem text {chars : List Char} {rest : Markup} (there : b.cursor = offset) (some : chars ≠ [])
    (grown : Grown (b.reach (offset + byteSize chars)) r (offset + byteSize chars) rest) :
    Grown b r offset (.text chars rest) where
  stray := grown.stray.trans (stray_reach b _)
  context := by
    obtain ⟨opened, context, names, nodes⟩ := grown.context
    have size : byteSize chars ≠ 0 := mt byteSize_eq_zero.1 some
    refine ⟨opened, by rw [context, context_reach], names, ?_⟩
    rw [nodes, siblings_reach (by omega), there, Markup.tree, Forest.toNodes, List.reverse_cons,
      List.append_assoc, List.singleton_append]

theorem selfClosing {tag : WrittenTag .selfClosing} {rest : Markup} (there : b.cursor = offset)
    (grown : Grown (b.step ⟨.selfClosing, tag.name, ⟨offset, offset + byteSize tag.raw⟩⟩) r
      (offset + byteSize tag.raw) rest) :
    Grown b r offset (.selfClosing tag rest) := by
  rw [step_selfClosing b tag.name _ there] at grown
  obtain ⟨opened, context, names, nodes⟩ := grown.context
  refine ⟨grown.stray, opened, context, names, ?_⟩
  rw [nodes, Markup.tree, Forest.toNodes, List.reverse_cons, List.append_assoc,
    List.singleton_append]

theorem unclosed {tag : WrittenTag .opening} {rest : Markup} (there : b.cursor = offset)
    (grown : Grown (b.step ⟨.opening, tag.name, ⟨offset, offset + byteSize tag.raw⟩⟩) r
      (offset + byteSize tag.raw) rest) :
    Grown b r offset (.unclosed tag rest) := by
  rw [step_opening b tag.name _ there] at grown
  obtain ⟨opened, context, names, nodes⟩ := grown.context
  let here : OpenElement := ⟨.ofName tag.name, ⟨offset, offset + byteSize tag.raw⟩, b.siblings⟩
  refine ⟨grown.stray, opened ++ [here], ?_, ?_, ?_⟩
  · rw [context, List.append_assoc]
    rfl
  · intro e found
    rcases List.mem_append.1 found with before | last
    · obtain ⟨name, listed, same⟩ := names e before
      exact ⟨name, List.mem_cons_of_mem _ listed, same⟩
    · rw [List.mem_singleton] at last
      exact ⟨tag.name, List.mem_cons_self, by rw [last]⟩
  · rw [hoisted] at nodes
    rw [hoisted, List.flatMap_append, ← List.append_assoc, nodes, Markup.tree, Forest.toNodes,
      List.reverse_cons, List.append_nil, List.append_assoc, List.flatMap_singleton]
    rfl

/-- The closing tag finds its partner: what the children left open has other names. -/
theorem paired {opening : WrittenTag .opening} {children rest : Markup}
    {closing : WrittenTag .closing} {first last stop : Nat} {inside : Builder}
    (there : b.cursor = offset) (sizeOpening : first = offset + byteSize opening.raw)
    (sizeChildren : last = first + byteSize children.render)
    (sizeClosing : stop = last + byteSize closing.raw) (same : opening.name = closing.name)
    (fresh : opening.name ∉ children.unclosedNames)
    (grownInside : Grown (b.step ⟨.opening, opening.name, ⟨offset, first⟩⟩) (inside.reach last) first
      children)
    (grown : Grown (inside.step ⟨.closing, closing.name, ⟨last, stop⟩⟩) r stop rest) :
    Grown b r offset (.paired opening children closing rest) := by
  rw [step_opening b opening.name _ there] at grownInside
  obtain ⟨opened, context, names, nodes⟩ := grownInside.context
  have others : ∀ e ∈ opened, e.tag ≠ Tag.ofName closing.name := by
    intro e found named
    obtain ⟨name, listed, tag⟩ := names e found
    have equal : name = closing.name := by
      rw [← Tag.name_ofName name, ← tag, named, Tag.name_ofName]
    exact fresh (by rw [same, ← equal]; exact listed)
  have closed := step_closing (inside.reach last) closing.name ⟨last, stop⟩
    (cursor_reach inside last) context (congrArg Tag.ofName same) others
  obtain ⟨left, around, after⟩ := closed
  rw [← step_reach, after] at grown
  obtain ⟨opened', context', names', nodes'⟩ := grown.context
  refine ⟨grown.stray.trans grownInside.stray, opened', ?_, names', ?_⟩
  · rw [context']
    exact congrArg (opened' ++ ·) around
  · subst sizeOpening sizeChildren sizeClosing
    rw [nodes', nodes, List.append_nil, Forest.ofReversed_reverse_toNodes, ← same, Markup.tree,
      Forest.toNodes, List.reverse_cons, List.append_assoc, List.singleton_append]

end Grown

/-- A run over the tags of well-formed markup, from any builder that stands where it starts. -/
theorem grown_foldl_step {m : Markup} (formed : m.WellFormed) {b : Builder} {offset : Nat}
    (there : b.cursor = offset) :
    Grown b (((m.tokens offset).foldl step b).reach (offset + byteSize m.render)) offset m := by
  induction m generalizing b offset with
  | nil => exact Grown.nil there
  | text chars rest ih =>
    obtain ⟨some, -, tag, formed⟩ := formed
    have grown := ih formed (cursor_reach b (offset + byteSize chars))
    rw [foldl_step_reach b _ tag] at grown
    rw [Markup.tokens, Markup.render, byteSize_append, ← Nat.add_assoc]
    exact Grown.text there some grown
  | selfClosing tag rest ih =>
    rw [Markup.tokens, Markup.render, byteSize_append, ← Nat.add_assoc]
    exact Grown.selfClosing there (ih formed (cursor_step b _))
  | unclosed tag rest ih =>
    rw [Markup.tokens, Markup.render, byteSize_append, ← Nat.add_assoc]
    exact Grown.unclosed there (ih formed (cursor_step b _))
  | paired opening children closing rest ihc ihr =>
    obtain ⟨same, fresh, inside, formed⟩ := formed
    rw [Markup.tokens, Markup.render, byteSize_append, byteSize_append, byteSize_append]
    simp only [← Nat.add_assoc, List.foldl_cons, List.foldl_append]
    exact Grown.paired there rfl rfl rfl same fresh (ihc inside (cursor_step b _))
      (ihr formed (cursor_step _ _))

end Builder

/-- **Parsing undoes rendering.** The text of well-formed markup is read as its tree, and no tag of
it strays. -/
theorem parse_render (m : Markup) (formed : m.WellFormed) :
    parse m.render = ⟨m.tree 0, []⟩ := by
  have grown := Builder.grown_foldl_step formed (b := {}) rfl
  obtain ⟨opened, context, -, nodes⟩ := grown.context
  have whole := context.trans (List.append_nil opened)
  rw [parse, Document.ofTokens, Markup.tokenize_render formed]
  rw [Nat.zero_add] at grown whole nodes
  congr 1
  · change ((((m.tokens 0).foldl Builder.step {}).reach (byteSize m.render)).finish) = _
    rw [Builder.finish, whole, nodes, List.append_nil, Forest.ofReversed_reverse_toNodes]
  · rw [List.reverse_eq_nil_iff]
    exact grown.stray

/-- A tag by what stands between its brackets. -/
def WrittenTag.ofBody {kind : TagKind} (name body : String)
    (read : Token.startingAt? 0 ('<' :: (body.toList ++ ['>'])) =
      some ⟨kind, name, ⟨0, byteSize ('<' :: (body.toList ++ ['>']))⟩⟩) : WrittenTag kind :=
  ⟨'<' :: (body.toList ++ ['>']), name, Token.isTag_of_startingAt? read⟩

/-- Markup with unclosed elements at two depths, one of them named as the element two levels up. -/
def mixedMarkup : Markup :=
  .paired (.ofBody "div" "DIV class=a" rfl)
    (.unclosed (.ofBody "span" "span" rfl)
      (.text ['x', '>']
        (.paired (.ofBody "p" "p" rfl)
          (.unclosed (.ofBody "div" "div" rfl) .nil)
          (.ofBody "p" "/p " rfl)
          (.selfClosing (.ofBody "meta" "meta/" rfl) .nil))))
    (.ofBody "div" "/ Div" rfl)
    (.unclosed (.ofBody "b" "b" rfl) (.text ['é'] .nil))

theorem parse_render_mixedMarkup :
    mixedMarkup.render = "<DIV class=a><span>x><p><div></p ><meta/></ Div><b>é".toList ∧
      mixedMarkup.WellFormed ∧ parse mixedMarkup.render = ⟨mixedMarkup.tree 0, []⟩ := by
  have formed : mixedMarkup.WellFormed := by
    simp [mixedMarkup, Markup.WellFormed, Markup.startsWithText, Markup.unclosedNames,
      WrittenTag.ofBody]
  exact ⟨by decide, formed, parse_render mixedMarkup formed⟩

end Mhtml
