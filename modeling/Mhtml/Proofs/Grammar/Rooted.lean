import Mhtml.Grammar.Bounds
import Mhtml.Proofs.Grammar.Roots
import Mhtml.Proofs.Tree.Shape

/-!
# There is a root

A text with the right ends has a root. Its first tag opens `html` and its last one
closes it; `Builder.Rooted` holds from the first tag on, whatever comes between:
the outermost open element is that first one, or some `html` has been closed
already. The last tag then leaves a pair called `html` in the tree.
-/

namespace Mhtml

/-- Where a document stands in its text: all of it but the margins. -/
def trimmedSpan (text : List Char) : Span :=
  let start := byteSize (text.takeWhile isMargin)
  ⟨start, start + byteSize (trimBoth isMargin text)⟩

/-- Trimming takes away only what it may. -/
theorem exists_trimBoth (p : Char → Bool) (cs : List Char) :
    ∃ trail, cs = cs.takeWhile p ++ (trimBoth p cs ++ trail) ∧ (∀ c ∈ cs.takeWhile p, p c = true) ∧
      ∀ c ∈ trail, p c = true := by
  let rest := cs.dropWhile p
  refine ⟨(rest.reverse.takeWhile p).reverse, ?_, ?_, ?_⟩
  · have back : rest = trimBoth p cs ++ (rest.reverse.takeWhile p).reverse := by
      rw [trimBoth, ← List.reverse_append, List.takeWhile_append_dropWhile, List.reverse_reverse]
    rw [← back, List.takeWhile_append_dropWhile]
  · exact List.all_eq_true.1 List.all_takeWhile
  · intro c found
    exact List.all_eq_true.1 List.all_takeWhile c (List.mem_reverse.1 found)

theorem not_mem_of_isMargin {cs : List Char} (margin : ∀ c ∈ cs, isMargin c = true) : '<' ∉ cs := by
  intro found
  exact absurd (margin '<' found) (by decide)

/-- No end of `<html>` starts `</html>`, so the two do not overlap. -/
theorem exists_between_of_append_eq {before after : List Char}
    (same : rootStart ++ after = before ++ rootEnd) : ∃ inner, after = inner ++ rootEnd := by
  rcases List.append_eq_append_iff.1 same with ⟨inner, -, there⟩ | ⟨shared, start, stop⟩
  · exact ⟨inner, there⟩
  · have apart : ∀ n < 7, rootStart.drop n <+: rootEnd → rootStart.drop n = [] := by decide
    have short : before.length < 7 := by
      have := congrArg List.length start
      rw [List.length_append] at this
      have : rootStart.length = 6 := rfl
      omega
    have tail : rootStart.drop before.length = shared := by
      rw [start, List.drop_left]
    have none : shared = [] := by
      rw [← tail]
      refine apart _ short ?_
      rw [tail, stop]
      exact List.prefix_append shared after
    rw [none, List.nil_append] at stop
    exact ⟨[], stop.symm⟩

/-- A text with the right ends is wrapped in `<html>` and `</html>`. -/
theorem exists_wrapped {text : List Char} (starts : rootStart <+: trimBoth isMargin text)
    (ends : rootEnd <:+ trimBoth isMargin text) :
    ∃ lead inner trail, text = lead ++ (rootStart ++ (inner ++ (rootEnd ++ trail))) ∧
      trimmedSpan text =
        ⟨byteSize lead, byteSize lead + byteSize (rootStart ++ (inner ++ rootEnd))⟩ ∧
      '<' ∉ lead ∧ '<' ∉ trail := by
  obtain ⟨trail, whole, leadMargin, trailMargin⟩ := exists_trimBoth isMargin text
  obtain ⟨after, start⟩ := starts
  obtain ⟨before, stop⟩ := ends
  obtain ⟨inner, rfl⟩ := exists_between_of_append_eq (start.trans stop.symm)
  refine ⟨text.takeWhile isMargin, inner, trail, ?_, ?_, not_mem_of_isMargin leadMargin,
    not_mem_of_isMargin trailMargin⟩
  · rw [← start] at whole
    simpa only [List.append_assoc] using whole
  · rw [trimmedSpan, start]

theorem isTag_rootStart : Token.IsTag .opening "html" rootStart :=
  Token.isTag_of_startingAt? rfl

theorem isTag_rootEnd : Token.IsTag .closing "html" rootEnd :=
  Token.isTag_of_startingAt? rfl

/-- The first tag of a text with the right ends opens `html`, and the last one closes it. The two are
the ends of the document. -/
theorem exists_tokenize_eq {text : List Char} (starts : rootStart <+: trimBoth isMargin text)
    (ends : rootEnd <:+ trimBoth isMargin text) :
    ∃ first between last, tokenize text = ⟨.opening, "html", first⟩ ::
      (between ++ [⟨.closing, "html", last⟩]) ∧
      first.start = (trimmedSpan text).start ∧ last.stop = (trimmedSpan text).stop := by
  obtain ⟨lead, inner, trail, whole, extent, plainLead, plainTrail⟩ := exists_wrapped starts ends
  rw [extent, whole, Token.tokenize_eq_scan, Token.scan_append_of_not_mem plainLead,
    isTag_rootStart.scan_append]
  obtain ⟨between, same⟩ :=
    Token.exists_scan_append (0 + byteSize lead + byteSize rootStart) inner (rootEnd ++ trail)
  rw [isTag_rootEnd.scan_append, Token.scan_of_not_mem plainTrail] at same
  refine ⟨_, between, _, by rw [same], Nat.zero_add _, ?_⟩
  simp only [byteSize_append]
  omega

/-- A closing tag called `html` stands in the forest. -/
def Forest.ClosesRoot (f : Forest) : Prop :=
  ∃ t : Token, t.kind = .closing ∧ t.name = "html" ∧ .tag t ∈ f.pieces

/-- A closing tag of a forest closes an element. -/
theorem Forest.exists_closingToken? {f : Forest} {t : Token} (kind : t.kind = .closing)
    (there : .tag t ∈ f.pieces) : ∃ e ∈ f.preorder, e.closingToken? = some t := by
  have token : t ∈ f.tokens := List.mem_filterMap.2 ⟨.tag t, there, rfl⟩
  have closes := f.filter_closing_tokens.subset (List.mem_filter.2 ⟨token, by simp [kind]⟩)
  exact List.mem_filterMap.1 closes

namespace Builder

theorem closesRoot_fill {b : Builder} (closes : b.finish.ClosesRoot) (offset : Nat) :
    (b.fill offset).finish.ClosesRoot := by
  obtain ⟨t, kind, named, there⟩ := closes
  refine ⟨t, kind, named, ?_⟩
  rw [pieces_fill]
  exact List.mem_append_left _ there

theorem closesRoot_accept {b : Builder} (closes : b.finish.ClosesRoot) (t : Token) :
    (b.accept t).finish.ClosesRoot := by
  obtain ⟨u, kind, named, there⟩ := closes
  refine ⟨u, kind, named, ?_⟩
  by_cases strays : b.Strays t
  · rw [accept_of_strays b strays]
    exact there
  · rw [(pieces_accept b strays).1]
    exact List.mem_append_left _ there

/-- What holds of a builder from an outermost `<html>` on. -/
inductive Rooted (b : Builder) : Prop where
  /-- The outermost open element is called `html`. -/
  | opened (e : OpenElement) (outermost : b.context.toList.getLast? = some e) (named : e.tag = .html)
  /-- A pair called `html` is in the tree. -/
  | closed (closes : b.finish.ClosesRoot)

/-- Whether the text before a tag is in the tree makes no difference. -/
theorem Rooted.fill {b : Builder} (rooted : b.Rooted) (offset cursor : Nat) :
    ({ b.fill offset with cursor } : Builder).Rooted := by
  cases rooted with
  | opened e outermost named =>
    rw [← context_fill b offset] at outermost
    exact .opened e outermost named
  | closed closes => exact .closed (closesRoot_fill closes offset)

/-- A closing tag leaves the outermost open element open, or closes it for good. -/
theorem Rooted.close {b : Builder} {e : OpenElement} (outermost : b.context.toList.getLast? = some e)
    (named : e.tag = .html) {t : Token} (kind : t.kind = .closing) :
    (b.close (Tag.ofName t.name) t).Rooted := by
  rcases b.close_cases (Tag.ofName t.name) t with
    ⟨-, after⟩ | ⟨inner, opened, outer, context, same, -, after⟩
  · rw [after]
    exact .opened e outermost named
  · have kept := pieces_ended b context same kind rfl
    rw [after]
    rw [context, List.getLast?_append, List.getLast?_cons, Option.some_or] at outermost
    cases around : outer.toList.getLast? with
    | some last =>
      rw [around, Option.getD_some] at outermost
      cases outermost
      exact .opened e around named
    | none =>
      rw [around, Option.getD_none] at outermost
      cases outermost
      have html : t.name = "html" := by
        rw [← Tag.name_ofName t.name, ← same, named]
        rfl
      refine .closed ⟨t, kind, html, ?_⟩
      rw [kept]
      exact List.mem_append_right _ List.mem_cons_self

theorem Rooted.accept {b : Builder} (rooted : b.Rooted) (t : Token) : (b.accept t).Rooted := by
  cases rooted with
  | opened e outermost named =>
    unfold Builder.accept
    cases kind : t.kind with
    | selfClosing => exact .opened e outermost named
    | opening =>
      refine .opened e ?_ named
      change (_ :: b.context.toList).getLast? = some e
      rw [List.getLast?_cons, outermost, Option.getD_some]
    | closing => exact Rooted.close outermost named kind
  | closed closes => exact .closed (closesRoot_accept closes t)

theorem Rooted.step {b : Builder} (rooted : b.Rooted) (t : Token) : (b.step t).Rooted :=
  (rooted.fill t.span.start t.span.stop).accept t

theorem Rooted.foldl_step {b : Builder} (rooted : b.Rooted) (tokens : List Token) :
    (tokens.foldl Builder.step b).Rooted := by
  induction tokens generalizing b with
  | nil => exact rooted
  | cons t tokens ih => exact ih (rooted.step t)

/-- A closing tag called `html` finds its partner unless another one has. -/
theorem Rooted.closesRoot_accept {b : Builder} (rooted : b.Rooted) {t : Token}
    (kind : t.kind = .closing) (named : t.name = "html") : (b.accept t).finish.ClosesRoot := by
  cases rooted with
  | opened e outermost html =>
    have stays : ¬ b.Strays t := by
      rintro ⟨-, missing⟩
      refine missing e (List.mem_of_getLast? outermost) ?_
      rw [html, named]
      rfl
    refine ⟨t, kind, named, ?_⟩
    rw [(pieces_accept b stays).1]
    exact List.mem_append_right _ List.mem_cons_self
  | closed closes => exact Builder.closesRoot_accept closes t

/-- The first tag, if it opens `html`, is the outermost open element. -/
theorem rooted_step_start (first : Span) : (step {} ⟨.opening, "html", first⟩).Rooted := by
  have rooted : ∀ b : Builder, b.context.toList = [] → (b.accept ⟨.opening, "html", first⟩).Rooted := by
    intro b none
    refine .opened ⟨.html, first, b.siblings⟩ ?_ rfl
    change (_ :: b.context.toList).getLast? = _
    rw [none]
    rfl
  refine rooted _ ?_
  change (fill {} first.start).context.toList = []
  rw [context_fill]
  rfl

end Builder

/-- A text with the right ends has a pair called `html`. -/
theorem exists_isPair_html {text : List Char} (starts : rootStart <+: trimBoth isMargin text)
    (ends : rootEnd <:+ trimBoth isMargin text) :
    ∃ e ∈ (parse text).nodes.preorder, e.isPair .html = true := by
  obtain ⟨first, between, last, tokens, -, -⟩ := exists_tokenize_eq starts ends
  have closes : (parse text).nodes.ClosesRoot := by
    have before := (Builder.rooted_step_start first).foldl_step between
    have after := (before.fill last.start last.stop).closesRoot_accept
      (t := ⟨.closing, "html", last⟩) rfl rfl
    have filled := Builder.closesRoot_fill after (byteSize text)
    rw [parse, Document.ofTokens, tokens, List.foldl_cons, List.foldl_append]
    exact filled
  obtain ⟨t, kind, named, there⟩ := closes
  obtain ⟨e, found, same⟩ := Forest.exists_closingToken? kind there
  obtain ⟨closing, closed, rfl⟩ := Option.map_eq_some_iff.1 same
  have html : e.tag = .html := (isRegular_parse found).tag_eq_iff.2 named
  exact ⟨e, found, Element.isPair_of_closing html closed⟩

/-- A text with the right ends has a root. -/
theorem roots_ne_nil {text : List Char} (starts : rootStart <+: trimBoth isMargin text)
    (ends : rootEnd <:+ trimBoth isMargin text) : (parse text).roots ≠ [] := by
  obtain ⟨e, found, pair⟩ := exists_isPair_html starts ends
  rw [Document.roots, Document.descendants_eq, Ne, outermost_eq_nil_iff]
  intro none
  exact Nat.not_lt_zero _ (none e (List.mem_filter.2 ⟨found, pair⟩))

end Mhtml
