import Mhtml.Grammar.Validation
import Mhtml.Proofs.Grammar.Contents
import Mhtml.Proofs.Grammar.Nesting
import Mhtml.Proofs.Grammar.Rooted

/-!
# What is accepted

`Conforms` tells the grammar without a check: by the text, by its tags, and by
which elements are around which in its tree. A pass reports nothing just if the
text conforms. A text without a root is not checked any further, but it does not
have the right ends either, so it is reported all the same.
-/

namespace Mhtml

/-- A text follows the grammar, nesting being judged down to `limit`, with these elements as its root
and its sections. -/
structure Conforms (limit : Nat) (text : List Char) (root head body : Element) : Prop where
  /-- The text starts with `<html>`. -/
  starts : rootStart <+: trimBoth isMargin text
  /-- The text ends with `</html>`. -/
  ends : rootEnd <:+ trimBoth isMargin text
  /-- The root is the only pair called `html` that no other one is around. -/
  onlyRoot : (parse text).outerPairs .html = [root]
  /-- The head is the only pair called `head` below the root. -/
  onlyHead : root.children.preorder.filter (·.isPair .head) = [head]
  /-- The body is the only pair called `body` below the root. -/
  onlyBody : root.children.preorder.filter (·.isPair .body) = [body]
  headContent : head.HoldsOnly text ["title", "meta"]
  bodyContent : body.HoldsOnly text ["div", "span"]
  /-- The elements below a section nest well, on the first level or down to the limit. -/
  nesting : ∀ e ∈ [head, body], ∀ p ∈ e.children.placed [], p.depth ≤ max 1 limit →
    p.element.NestsWell text

theorem checkBounds_eq_nil_iff (s : Source) :
    checkBounds s = [] ↔
      rootStart <+: trimBoth isMargin s.text ∧ rootEnd <:+ trimBoth isMargin s.text := by
  unfold checkBounds
  dsimp only
  rw [List.append_eq_nil_iff, ite_eq_left_iff, ite_eq_left_iff, List.isPrefixOf_iff_prefix,
    List.isSuffixOf_iff_suffix]
  simp

/-- A section is found just if it is the only one of its name. -/
theorem matchSection_cases (s : Source) (root : Element) (tag : Tag) :
    (∃ e, root.children.preorder.filter (·.isPair tag) = [e] ∧ matchSection s root tag = .ok e) ∨
    (∀ e, root.children.preorder.filter (·.isPair tag) ≠ [e]) ∧
      ∃ d, matchSection s root tag = .error d := by
  rw [matchSection, Element.descendants_eq]
  split
  next e only => exact Or.inl ⟨e, only, rfl⟩
  next other => exact Or.inr ⟨other, _, rfl⟩

/-- Both sections are found and nothing is reported, or one is not the only one of its name and
something is. -/
theorem matchSections_cases (s : Source) (root : Element) :
    (∃ head body, root.children.preorder.filter (·.isPair .head) = [head] ∧
      root.children.preorder.filter (·.isPair .body) = [body] ∧
      matchSections s root = (some ⟨head, body⟩, [])) ∨
    (∀ head body, root.children.preorder.filter (·.isPair .head) = [head] →
      root.children.preorder.filter (·.isPair .body) ≠ [body]) ∧
      ∃ d ds, matchSections s root = (none, d :: ds) := by
  rw [matchSections]
  rcases matchSection_cases s root .head with ⟨head, onlyHead, okHead⟩ | ⟨noHead, d, badHead⟩
  · rcases matchSection_cases s root .body with ⟨body, onlyBody, okBody⟩ | ⟨noBody, d, badBody⟩
    · rw [okHead, okBody]
      exact Or.inl ⟨head, body, onlyHead, onlyBody, rfl⟩
    · rw [okHead, badBody]
      exact Or.inr ⟨fun _ body _ => noBody body, d, [], rfl⟩
  · refine Or.inr ⟨fun head _ only => absurd only (noHead head), ?_⟩
    rw [badHead]
    cases matchSection s root .body with
    | ok body => exact ⟨d, [], rfl⟩
    | error d' => exact ⟨d, [d'], rfl⟩

/-- Nothing is reported about the root if there is none, or if it is the only one, has both sections
and nothing is reported about these. -/
theorem checkRoot_eq_nil_iff (s : Source) (d : Document) (limit : Nat) :
    (checkRoot s d limit).diagnostics = [] ↔ d.roots = [] ∨
      ∃ root head body, d.roots = [root] ∧
        root.children.preorder.filter (·.isPair .head) = [head] ∧
        root.children.preorder.filter (·.isPair .body) = [body] ∧
        (checkSections s d limit ⟨head, body⟩).diagnostics = [] := by
  rw [checkRoot, matchRoot]
  cases d.roots with
  | nil => exact ⟨fun _ => Or.inl rfl, fun _ => rfl⟩
  | cons root extra =>
    dsimp only
    rcases matchSections_cases s root with
      ⟨head, body, onlyHead, onlyBody, sections⟩ | ⟨missing, d, ds, sections⟩
    · rw [sections, Pass.diagnostics_append, List.append_eq_nil_iff, List.map_eq_nil_iff]
      constructor
      · rintro ⟨rfl, passes⟩
        exact Or.inr ⟨root, head, body, rfl, onlyHead, onlyBody, passes⟩
      · rintro (none | ⟨_, head', body', same, onlyHead', onlyBody', passes⟩)
        · cases none
        · cases same
          cases onlyHead.symm.trans onlyHead'
          cases onlyBody.symm.trans onlyBody'
          exact ⟨rfl, passes⟩
    · rw [sections]
      constructor
      · intro none
        cases (List.append_eq_nil_iff.1 none).2
      · rintro (none | ⟨_, head, body, same, onlyHead, onlyBody, -⟩)
        · cases none
        · cases same
          exact absurd onlyBody (missing head body onlyHead)

/-- A section that is the only one of its name is a pair of that name in the document. -/
theorem of_filter_eq_singleton {text : List Char} {root e : Element} {tag : Tag}
    (found : root ∈ (parse text).nodes.preorder)
    (only : root.children.preorder.filter (·.isPair tag) = [e]) :
    e ∈ (parse text).nodes.preorder ∧ e.tag = tag ∧ e.isPaired = true := by
  have among : e ∈ root.children.preorder.filter (·.isPair tag) := by
    rw [only]
    exact List.mem_singleton_self e
  obtain ⟨below, pair⟩ := List.mem_filter.1 among
  obtain ⟨named, paired⟩ := Element.isPair_iff.1 pair
  exact ⟨Forest.mem_preorder_of_mem_children found below, named, paired⟩

/-- The only root is a pair called `html` in the document. -/
theorem of_roots_eq_singleton {text : List Char} {root : Element}
    (only : (parse text).roots = [root]) :
    root ∈ (parse text).nodes.preorder ∧ root.isPair .html = true := by
  apply of_mem_roots
  rw [only]
  exact List.mem_singleton_self root

theorem mem_preorder_of_roots_eq {text : List Char} {root : Element}
    (only : (parse text).roots = [root]) : root ∈ (parse text).nodes.preorder :=
  (of_roots_eq_singleton only).1

/-- Nothing is reported about the sections of a root just if both hold only what they may and all
inside them nests well. -/
theorem checkSections_eq_nil_iff {text : List Char} {root head body : Element} (limit : Nat)
    (found : root ∈ (parse text).nodes.preorder)
    (onlyHead : root.children.preorder.filter (·.isPair .head) = [head])
    (onlyBody : root.children.preorder.filter (·.isPair .body) = [body]) :
    (checkSections (.ofText text) (parse text) limit ⟨head, body⟩).diagnostics = [] ↔
      head.HoldsOnly text ["title", "meta"] ∧ body.HoldsOnly text ["div", "span"] ∧
      ∀ e ∈ [head, body], ∀ p ∈ e.children.placed [], p.depth ≤ max 1 limit →
        p.element.NestsWell text := by
  obtain ⟨foundHead, headTag, -⟩ := of_filter_eq_singleton found onlyHead
  obtain ⟨foundBody, bodyTag, -⟩ := of_filter_eq_singleton found onlyBody
  have headContent : checkContent (.ofText text) (parse text) head = [] ↔
      head.HoldsOnly text ["title", "meta"] :=
    checkContent_eq_nil_iff foundHead (by rw [headTag]; rfl) rfl _
  have bodyContent : checkContent (.ofText text) (parse text) body = [] ↔
      body.HoldsOnly text ["div", "span"] :=
    checkContent_eq_nil_iff foundBody (by rw [bodyTag]; rfl) rfl _
  rw [checkSections, Pass.diagnostics_append, Pass.diagnostics_append, List.append_eq_nil_iff,
    List.append_eq_nil_iff, List.append_eq_nil_iff, headContent, bodyContent,
    checkNesting_eq_nil_iff foundHead, checkNesting_eq_nil_iff foundBody, List.forall_mem_cons,
    List.forall_mem_singleton, and_assoc, and_assoc]

/-- **Acceptance is the grammar.** Whatever the text and the limit, a pass reports nothing just if the
text follows the grammar. -/
theorem diagnostics_eq_nil_iff_conforms (limit : Nat) (text : List Char) :
    (validate limit text).diagnostics = [] ↔ ∃ root head body, Conforms limit text root head body := by
  rw [validate, checkDocument, Pass.diagnostics_append, List.append_eq_nil_iff,
    checkBounds_eq_nil_iff, checkRoot_eq_nil_iff]
  constructor
  · rintro ⟨⟨starts, ends⟩, none | ⟨root, head, body, only, onlyHead, onlyBody, passes⟩⟩
    · exact absurd none (roots_ne_nil starts ends)
    · have found := mem_preorder_of_roots_eq only
      obtain ⟨headContent, bodyContent, nesting⟩ :=
        (checkSections_eq_nil_iff limit found onlyHead onlyBody).1 passes
      rw [roots_parse] at only
      exact ⟨root, head, body, starts, ends, only, onlyHead, onlyBody, headContent, bodyContent, nesting⟩
  · rintro ⟨root, head, body, c⟩
    have only := c.onlyRoot
    rw [← roots_parse] at only
    have passes := (checkSections_eq_nil_iff limit (mem_preorder_of_roots_eq only) c.onlyHead
      c.onlyBody).2 ⟨c.headContent, c.bodyContent, c.nesting⟩
    exact ⟨⟨c.starts, c.ends⟩, Or.inr ⟨root, head, body, only, c.onlyHead, c.onlyBody, passes⟩⟩

end Mhtml
