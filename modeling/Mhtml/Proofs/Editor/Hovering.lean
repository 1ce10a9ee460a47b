import Mhtml.Editor.Wire
import Mhtml.Proofs.Editor.Turns
import Mhtml.Proofs.Grammar.Locations
import Mhtml.Proofs.Tree.Pairing

/-!
# What is shown under the cursor

An editor asks what to show at a position. The server looks for the element with a
tag there, in the order of the tree, and shows what it knows of that element. Told
from the tags of the text it is simpler: each tag that does not stray belongs to one
element, and tags do not overlap. So at most one element has a tag at an offset, the
search finds it, and what is shown is about the one tag there: `hover_shows_tag`.
-/

namespace Mhtml

namespace ElementTags

variable {e : ElementTags} {t : Token} {o : Nat}

/-- The tags of an element. -/
def tokens (e : ElementTags) : List Token :=
  e.openingToken :: e.closingToken?.toList

theorem mem_tokens_iff : t ∈ e.tokens ↔ t = e.openingToken ∨ e.closingToken? = some t := by
  rw [tokens, List.mem_cons, Option.mem_toList]

theorem name_of_mem_tokens (own : t ∈ e.tokens) : t.name = e.tag.name := by
  rcases mem_tokens_iff.1 own with rfl | closes
  · rfl
  · obtain ⟨closing, -, rfl⟩ := Option.map_eq_some_iff.1 closes
    rfl

theorem covers_iff : e.covers o = true ↔ ∃ t ∈ e.tokens, o ∈ t.span := by
  rw [covers, Bool.or_eq_true, decide_eq_true_eq, Option.any_eq_true]
  simp only [decide_eq_true_eq, mem_tokens_iff, or_and_right, exists_or, exists_eq_left]
  refine or_congr Iff.rfl ⟨?_, ?_⟩
  · rintro ⟨closing, closed, inside⟩
    exact ⟨_, closingToken?_eq_some closed, inside⟩
  · rintro ⟨t, closes, inside⟩
    obtain ⟨closing, closed, rfl⟩ := Option.map_eq_some_iff.1 closes
    exact ⟨closing, closed, inside⟩

/-- The tag that is picked for an offset covers it, if any tag of the element does. -/
theorem exists_tagAt_eq (covers : e.covers o = true) :
    ∃ t ∈ e.tokens, o ∈ t.span ∧ e.tagAt o = t.span := by
  by_cases opens : o ∈ e.opening
  · exact ⟨e.openingToken, mem_tokens_iff.2 (Or.inl rfl), opens, if_pos opens⟩
  · obtain ⟨t, own, inside⟩ := covers_iff.1 covers
    refine ⟨t, own, inside, ?_⟩
    rcases mem_tokens_iff.1 own with rfl | closes
    · exact absurd inside opens
    · obtain ⟨closing, closed, rfl⟩ := Option.map_eq_some_iff.1 closes
      rw [tagAt, if_neg opens, closed, Option.getD_some]

end ElementTags

/-- The tag is at the offset, and it does not stray. -/
structure Token.StandsAt (text : List Char) (o : Nat) (t : Token) : Prop where
  tag : t ∈ tokenize text
  kept : t ∉ (parse text).stray
  inside : o ∈ t.span

section Parsed

variable {text : List Char} {t : Token} {o : Nat} {d e : Element}

/-- The tags of the elements are those that do not stray. -/
theorem exists_mem_tokens_iff :
    (∃ e ∈ (parse text).nodes.preorder, t ∈ e.tokens) ↔
      t ∈ tokenize text ∧ t ∉ (parse text).stray := by
  by_cases kind : t.kind = .closing
  · rw [mem_tokenize_closing_iff kind]
    constructor
    · rintro ⟨e, found, own⟩
      rcases ElementTags.mem_tokens_iff.1 own with rfl | closes
      · exact absurd kind e.kind_openingToken
      · exact ⟨Or.inl ⟨e, found, closes⟩, not_mem_stray found closes⟩
    · rintro ⟨⟨e, found, closes⟩ | stray, kept⟩
      · exact ⟨e, found, ElementTags.mem_tokens_iff.2 (Or.inr closes)⟩
      · exact absurd stray kept
  · have kept : t ∉ (parse text).stray := fun stray => kind (mem_tokenize_of_mem_stray stray).2
    rw [and_iff_left kept]
    constructor
    · rintro ⟨e, found, own⟩
      rcases ElementTags.mem_tokens_iff.1 own with rfl | closes
      · exact (exists_openingToken_iff.1 ⟨e, found, rfl⟩).1
      · exact absurd (ElementTags.kind_of_mem_closingToken? closes) kind
    · intro tag
      obtain ⟨e, found, rfl⟩ := exists_openingToken_iff.2 ⟨tag, kind⟩
      exact ⟨e, found, ElementTags.mem_tokens_iff.2 (Or.inl rfl)⟩

/-- No tag belongs to two elements. -/
theorem eq_of_mem_tokens (left : d ∈ (parse text).nodes.preorder)
    (right : e ∈ (parse text).nodes.preorder) (own : t ∈ d.tokens) (own' : t ∈ e.tokens) : d = e := by
  have opens : d.openingToken = e.openingToken := by
    rcases ElementTags.mem_tokens_iff.1 own with rfl | closes
    · rcases ElementTags.mem_tokens_iff.1 own' with same | closes'
      · exact same
      · exact absurd (ElementTags.kind_of_mem_closingToken? closes') d.kind_openingToken
    · rcases ElementTags.mem_tokens_iff.1 own' with rfl | closes'
      · exact absurd (ElementTags.kind_of_mem_closingToken? closes) e.kind_openingToken
      · exact (pairs_of_closingToken left closes).unique (Token.increasing_tokenize text)
          (pairs_of_closingToken right closes')
  exact Forest.eq_of_opening_eq (spaced_parse text) left right (congrArg Token.span opens)

/-- A tag of an element stands wherever it covers the text. -/
theorem standsAt_of_mem_tokens (found : e ∈ (parse text).nodes.preorder) (own : t ∈ e.tokens)
    (inside : o ∈ t.span) : t.StandsAt text o := by
  obtain ⟨tag, kept⟩ := exists_mem_tokens_iff.1 ⟨e, found, own⟩
  exact ⟨tag, kept, inside⟩

/-- At most one element has a tag at an offset. -/
theorem eq_of_covers (left : d ∈ (parse text).nodes.preorder)
    (right : e ∈ (parse text).nodes.preorder) (covers : d.covers o = true)
    (covers' : e.covers o = true) : d = e := by
  obtain ⟨t, own, inside⟩ := ElementTags.covers_iff.1 covers
  obtain ⟨u, own', inside'⟩ := ElementTags.covers_iff.1 covers'
  have tag := (standsAt_of_mem_tokens left own inside).tag
  have tag' := (standsAt_of_mem_tokens right own' inside').tag
  have same : t = u := Token.eq_of_mem_span tag tag' inside inside'
  subst same
  exact eq_of_mem_tokens left right own own'

theorem elementAt?_eq_some_iff :
    (parse text).elementAt? o = some e ↔
      e ∈ (parse text).nodes.preorder ∧ e.covers o = true := by
  rw [Document.elementAt?, Element.covering?, Document.descendants_eq]
  constructor
  · intro first
    exact ⟨List.mem_of_find?_eq_some first, by simpa using List.find?_some first⟩
  · rintro ⟨found, covers⟩
    have some : ((parse text).nodes.preorder.find? (·.covers o)).isSome = true :=
      List.find?_isSome.2 ⟨e, found, covers⟩
    obtain ⟨d, first⟩ := Option.isSome_iff_exists.1 some
    have covers' : d.covers o = true := by simpa using List.find?_some first
    rw [first, eq_of_covers (List.mem_of_find?_eq_some first) found covers' covers]

/-- The element of a tag is found where the tag stands. -/
theorem exists_elementAt? (there : t.StandsAt text o) :
    ∃ e, (parse text).elementAt? o = some e ∧ e.tag.name = t.name ∧ e.tagAt o = t.span := by
  obtain ⟨e, found, own⟩ := exists_mem_tokens_iff.2 ⟨there.tag, there.kept⟩
  have covers : e.covers o = true := ElementTags.covers_iff.2 ⟨t, own, there.inside⟩
  obtain ⟨u, own', inside, picked⟩ := ElementTags.exists_tagAt_eq covers
  have tag := (standsAt_of_mem_tokens found own' inside).tag
  have same : t = u := Token.eq_of_mem_span there.tag tag there.inside inside
  refine ⟨e, elementAt?_eq_some_iff.2 ⟨found, covers⟩, ?_, ?_⟩
  · exact (ElementTags.name_of_mem_tokens own).symm
  · rw [picked, same]

theorem isSome_elementAt?_iff :
    ((parse text).elementAt? o).isSome = true ↔ ∃ t, Token.StandsAt text o t := by
  rw [Option.isSome_iff_exists]
  constructor
  · rintro ⟨e, here⟩
    obtain ⟨found, covers⟩ := elementAt?_eq_some_iff.1 here
    obtain ⟨t, own, inside⟩ := ElementTags.covers_iff.1 covers
    exact ⟨t, standsAt_of_mem_tokens found own inside⟩
  · rintro ⟨t, there⟩
    obtain ⟨e, here, -⟩ := exists_elementAt? there
    exact ⟨e, here⟩

end Parsed

namespace Snippet

/-- The elements that have a snippet. -/
theorem isSome_for?_iff (name : String) :
    (for? name).isSome = true ↔ name ∈ ["html", "head", "body", "title", "meta", "div", "span"] := by
  have labels : all.map label = ["html", "head", "body", "title", "meta", "div", "span"] := rfl
  rw [for?, List.find?_isSome, ← labels, List.mem_map]
  simp only [beq_iff_eq]

theorem label_of_for? {name : String} {snippet : Snippet} (known : for? name = some snippet) :
    snippet.label = name := by
  simpa using List.find?_some known

end Snippet

section Hover

variable {text : List Char} {p : Position} {t : Token} {o : Nat}

/-- What is shown over a tag is told by its name and its span. -/
theorem hoverAt?_of_standsAt (leads : (Source.ofText text).offset? p = some o)
    (there : t.StandsAt text o) :
    (parse text).hoverAt? (.ofText text) p =
      (Snippet.for? t.name).map fun snippet => ⟨snippet, (Source.ofText text).range t.span⟩ := by
  obtain ⟨e, here, name, picked⟩ := exists_elementAt? there
  rw [Document.hoverAt?, leads]
  simp only [Option.bind_eq_bind, Option.bind_some, here, name, picked]
  cases Snippet.for? t.name <;> rfl

/-- Something is shown at a position just if it leads to a tag with a snippet. -/
theorem isSome_hoverAt?_iff :
    ((parse text).hoverAt? (.ofText text) p).isSome = true ↔
      ∃ o t, (Source.ofText text).offset? p = some o ∧ Token.StandsAt text o t ∧
        (Snippet.for? t.name).isSome = true := by
  constructor
  · intro shown
    cases leads : (Source.ofText text).offset? p with
    | none => simp [Document.hoverAt?, leads] at shown
    | some o =>
      cases here : (parse text).elementAt? o with
      | none => simp [Document.hoverAt?, leads, here] at shown
      | some e =>
        obtain ⟨t, there⟩ := isSome_elementAt?_iff.1 (Option.isSome_of_eq_some here)
        rw [hoverAt?_of_standsAt leads there, Option.isSome_map] at shown
        exact ⟨o, t, rfl, there, shown⟩
  · rintro ⟨o, t, leads, there, known⟩
    rwa [hoverAt?_of_standsAt leads there, Option.isSome_map]

/-- A position that leads into a framed span is in its range, unless it splits a character. -/
theorem mem_range_of_leads {span : Span} (framed : IsFramed text span)
    (leads : (Source.ofText text).offset? p = some o) (inside : o ∈ span) :
    let source := Source.ofText text
    (source.range span).start ≤ source.position o ∧ source.position o < (source.range span).stop ∧
      (¬ SplitsCharacter (source.lineText p.line) p.character →
        (source.range span).start ≤ p ∧ p < (source.range span).stop) := by
  obtain ⟨edge, back⟩ := Source.position_of_offset? leads
  have bounds := Source.position_mem_range (s := .ofText text) framed edge inside
  refine ⟨bounds.1, bounds.2, fun whole => ?_⟩
  rcases back with ⟨splits, -⟩ | ⟨-, same⟩
  · exact absurd splits whole
  · rwa [same] at bounds

end Hover

/-- **Hover is about the tag under the cursor.** A request about an open text is answered. Something
is shown just if the position leads to a tag of the text that does not stray and that has one of the
seven names; it is the snippet of that name, with the range of the tag, and the range contains the
position, unless that splits a character. An element is found at an offset just if a tag that does not
stray is there, and no other element has a tag there. -/
theorem hover_shows_tag {s : Session} {uri : String} {stored : StoredText}
    (opened : s.documents.get? uri = some stored) (p : Position) :
    let text := stored.text
    let source := Source.ofText text
    (∃ hover?, (s.act (.hover uri p)).answer = .result (.hover hover?) ∧
      (hover?.isSome = true ↔ ∃ o t, source.offset? p = some o ∧ Token.StandsAt text o t ∧
        t.name ∈ ["html", "head", "body", "title", "meta", "div", "span"]) ∧
      ∀ hover ∈ hover?, ∀ o t, source.offset? p = some o → Token.StandsAt text o t →
        Snippet.for? t.name = some hover.snippet ∧
        hover.toJson = .obj
          [("contents", markdown ("**<" ++ t.name ++ ">**\n\n" ++ hover.snippet.description)),
           ("range", (source.range t.span).toJson)] ∧
        hover.range = source.range t.span ∧
        hover.range.start ≤ source.position o ∧ source.position o < hover.range.stop ∧
        (¬ SplitsCharacter (source.lineText p.line) p.character →
          hover.range.start ≤ p ∧ p < hover.range.stop)) ∧
    (∀ o, ((parse text).elementAt? o).isSome = true ↔ ∃ t, Token.StandsAt text o t) ∧
    ∀ o, ∀ d ∈ (parse text).descendants, ∀ e ∈ (parse text).descendants,
      d.covers o = true → e.covers o = true → d = e := by
  intro text source
  have shown : (s.act (.hover uri p)).answer =
      .result (.hover ((parse text).hoverAt? source p)) := by
    rw [Session.act, opened, Option.bind_some, stored.document_eq]
    show Answer.result (.hover ((parse text).hoverAt? stored.source p)) = _
    rw [stored.source.eq_ofText]
    rfl
  refine ⟨⟨_, shown, ?_, ?_⟩, fun o => isSome_elementAt?_iff, ?_⟩
  · rw [isSome_hoverAt?_iff]
    simp only [Snippet.isSome_for?_iff]
    exact Iff.rfl
  · intro hover among o t leads there
    have rule := hoverAt?_of_standsAt leads there
    obtain ⟨snippet, known, rfl⟩ := Option.map_eq_some_iff.1 (rule.symm.trans among)
    obtain ⟨after, before, own⟩ :=
      mem_range_of_leads (Token.isFramed there.tag) leads there.inside
    refine ⟨known, ?_, rfl, after, before, own⟩
    rw [← Snippet.label_of_for? known]
    rfl
  · intro o d left e right
    rw [Document.descendants_eq] at left right
    exact eq_of_covers left right

/-- A stray tag, and an element with a tag on two lines. -/
def hoveredMarkup : List Char :=
  "</p><div\n😀 ></div>".toList

/-- A session in which the document `a` is open. -/
def hoveringSession : Session where
  documents := (∅ : Store).insert "a" (.ofText hoveredMarkup 1)

theorem hover_shows_tag_hoveredMarkup :
    (∃ hover, (hoveringSession.act (.hover "a" ⟨1, 0⟩)).answer = .result (.hover (some hover)) ∧
      hover.snippet.label = "div" ∧ hover.range = ⟨⟨0, 4⟩, ⟨1, 4⟩⟩) ∧
    (hoveringSession.act (.hover "a" ⟨0, 1⟩)).answer = .result (.hover none) := by
  have opened : hoveringSession.documents.get? "a" = some (.ofText hoveredMarkup 1) := by
    rw [hoveringSession, Store.get?_insert, if_pos rfl]
  have offsets : (Source.ofText hoveredMarkup).offset? ⟨1, 0⟩ = some 9 ∧
      (Source.ofText hoveredMarkup).offset? ⟨0, 1⟩ = some 1 := by decide +kernel
  have tags : tokenize hoveredMarkup =
      [⟨.closing, "p", ⟨0, 4⟩⟩, ⟨.opening, "div", ⟨4, 15⟩⟩, ⟨.closing, "div", ⟨15, 21⟩⟩] := by
    decide +kernel
  have stray : (parse hoveredMarkup).stray = [⟨.closing, "p", ⟨0, 4⟩⟩] := by decide +kernel
  have range : (Source.ofText hoveredMarkup).range ⟨4, 15⟩ = ⟨⟨0, 4⟩, ⟨1, 4⟩⟩ := by decide +kernel
  constructor
  · obtain ⟨⟨hover?, answer, shown, about⟩, -⟩ := hover_shows_tag opened ⟨1, 0⟩
    have there : Token.StandsAt hoveredMarkup 9 ⟨.opening, "div", ⟨4, 15⟩⟩ :=
      ⟨by simp [tags], by simp [stray], by decide⟩
    obtain ⟨hover, rfl⟩ := Option.isSome_iff_exists.1
      (shown.2 ⟨9, _, offsets.1, there, by decide⟩)
    obtain ⟨known, -, own, -⟩ := about hover rfl 9 _ offsets.1 there
    exact ⟨hover, answer, Snippet.label_of_for? known, own.trans range⟩
  · obtain ⟨⟨hover?, answer, shown, -⟩, -⟩ := hover_shows_tag opened ⟨0, 1⟩
    cases hover? with
    | none => exact answer
    | some hover =>
      obtain ⟨o, t, leads, there, -⟩ := shown.1 rfl
      cases leads.symm.trans offsets.2
      have tag : t ∈ tokenize hoveredMarkup := there.tag
      have kept : t ∉ (parse hoveredMarkup).stray := there.kept
      -- The only tag at this offset is the stray one.
      have same : t = ⟨.closing, "p", ⟨0, 4⟩⟩ :=
        Token.eq_of_mem_span tag (by simp [tags]) there.inside (by decide)
      exact absurd (by simp [same, stray]) kept

end Mhtml
