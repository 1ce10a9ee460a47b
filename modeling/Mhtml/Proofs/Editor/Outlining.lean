import Mathlib.Data.List.Forall2
import Mathlib.Data.List.TakeWhile
import Mhtml.Editor.Wire
import Mhtml.Proofs.Editor.Turns
import Mhtml.Proofs.Grammar.Locations

/-!
# What an outline shows

An outline is made along the tree, level by level. Listed in document order, each
symbol with those around it, it is the list of the elements down to its last
level, each with the elements around it: `Forest.entries_outline`. So what a tree
says about its elements carries over to the symbols. That their ranges are nested
as they are comes from how the elements lie in the text, since positions grow with
offsets. `outline_pictures_tree` puts both together for the answer to a request.
-/

namespace Mhtml

/-- The range lies within another one. -/
def Range.Within (r t : Range) : Prop :=
  t.start ≤ r.start ∧ r.stop ≤ t.stop

/-- A symbol in its place in an outline. -/
structure OutlineEntry where
  /-- The symbol. -/
  symbol : OutlineSymbol
  /-- The symbols around it, the innermost first. -/
  around : List OutlineSymbol
  /-- The symbols below it. -/
  below : Outline

namespace Outline

/-- The symbols of the run itself, without those below them. -/
def symbols : Outline → List OutlineSymbol
  | nil => []
  | entry symbol _ rest => symbol :: rest.symbols

/-- All symbols, each before those below it and after those that precede it; `around` is around all
of them. -/
def entries (around : List OutlineSymbol) : Outline → List OutlineEntry
  | nil => []
  | entry symbol children rest =>
    ⟨symbol, around, children⟩ :: (children.entries (symbol :: around) ++ rest.entries around)

/-- The ranges of an outline are nested as its symbols are. -/
structure WellNested (o : Outline) : Prop where
  /-- No range is empty. -/
  some : ∀ entry ∈ o.entries [], entry.symbol.range.start < entry.symbol.range.stop
  /-- What is selected is part of what is covered. -/
  selected : ∀ entry ∈ o.entries [], entry.symbol.selection.Within entry.symbol.range
  /-- What is below a symbol is in its range, behind what it selects. -/
  enclosed : ∀ entry ∈ o.entries [], ∀ child ∈ entry.below.symbols,
    child.range.Within entry.symbol.range ∧ entry.symbol.selection.stop ≤ child.range.start
  /-- The ranges on the top level follow each other. -/
  topLevel : o.symbols.Pairwise fun a b => a.range.stop ≤ b.range.start
  /-- The ranges below a symbol follow each other. -/
  siblings : ∀ entry ∈ o.entries [],
    entry.below.symbols.Pairwise fun a b => a.range.stop ≤ b.range.start

theorem isEmpty_iff {o : Outline} : o.isEmpty = true ↔ o.symbols = [] := by
  cases o <;> simp [isEmpty, symbols]

end Outline

/-- The element shows a text: it has both tags, no element stands between them, and `piece` does,
which is not all blank. -/
structure Element.ShowsText (text : List Char) (e : Element) (piece : List Char) : Prop where
  paired : e.isPaired = true
  leaf : e.children.elements = []
  there : ∃ inner ∈ e.inner?, TextAt text inner piece
  visible : ∃ c ∈ piece, isBlank c = false

/-- The entry is about the element in this place of the tree, in an outline of `levels` levels. -/
structure OutlineEntry.Pictures (s : Source) (levels : Nat) (entry : OutlineEntry) (p : Placed) :
    Prop where
  name : entry.symbol.name = p.element.tag.name
  isPaired : entry.symbol.isPaired = p.element.isPaired
  range : entry.symbol.range = s.range p.element.outer
  selection : entry.symbol.selection = s.range p.element.opening
  /-- The symbols around it are those of the elements around the element. -/
  around : entry.around = p.around.map (·.symbol s)
  /-- On the wire it has children if the element has some on a level that is kept, and a detail if
  the element shows a text. -/
  members : ∃ members, (Outline.entry entry.symbol entry.below .nil).toJson = [.obj members] ∧
    ((∃ children, ("children", children) ∈ members) ↔
      ∃ child ∈ p.element.children.elements,
        Placed.depth ⟨child, p.element :: p.around⟩ ≤ levels) ∧
    ∀ detail, ("detail", detail) ∈ members ↔
      ∃ piece, p.element.ShowsText s.text piece ∧
        detail = .str (String.ofList (trimBoth isBlank piece))

/-! ## The symbols of a tree -/

/-- The entry of an element in an outline that goes down to depth `last`. -/
def Placed.entry (s : Source) (last : Nat) (p : Placed) : OutlineEntry where
  symbol := p.element.symbol s
  around := p.around.map (·.symbol s)
  below := if p.depth < last then p.element.children.outline s (last - p.depth) else .nil

namespace Forest

variable {s : Source}

theorem symbols_outline (levels : Nat) (f : Forest) :
    (f.outline s levels).symbols = f.elements.map (·.symbol s) := by
  induction f with
  | nil => rfl
  | text _ rest ih => exact ih
  | element tags children rest _ ih => rw [outline, Outline.symbols, ih, elements, List.map_cons]

/-- Nothing in a forest is above the level of the forest. -/
theorem filter_depth_placed {around : List Element} {last : Nat} (deep : last ≤ around.length)
    (f : Forest) : (f.placed around).filter (·.depth ≤ last) = [] := by
  rw [List.filter_eq_nil_iff]
  intro p found
  have below := le_depth_of_mem_placed found
  rw [decide_eq_true_eq]
  omega

/-- An outline has an entry for each element down to its last level, in the order of the tree. -/
theorem entries_outline (levels : Nat) {last : Nat} (around : List Element)
    (reaches : around.length + max 1 levels = last) (f : Forest) :
    (f.outline s levels).entries (around.map (·.symbol s)) =
      ((f.placed around).filter (·.depth ≤ last)).map (·.entry s last) := by
  induction f generalizing around levels with
  | nil => rfl
  | text _ rest ih => exact ih levels around reaches
  | element tags children rest ihc ihr =>
    let e : Element := ⟨tags, children⟩
    have depth : Placed.depth ⟨e, around⟩ = around.length + 1 := rfl
    have deeper : (e :: around).length = around.length + 1 := rfl
    have kept : Placed.depth ⟨e, around⟩ ≤ last := by omega
    rw [outline, Outline.entries, placed, List.filter_cons_of_pos (by simpa using kept),
      List.filter_append, List.map_cons, List.map_append, ihr levels around reaches]
    by_cases more : 1 < levels
    · -- From one level further down there is one level less to go.
      have inner := ihc (levels - 1) (e :: around) (by omega)
      have here : Placed.depth ⟨e, around⟩ < last := by omega
      have left : last - Placed.depth ⟨e, around⟩ = levels - 1 := by omega
      rw [List.map_cons] at inner
      rw [if_pos more, inner]
      simp only [Placed.entry, if_pos here, left, e]
    · have deep : last ≤ (e :: around).length := by omega
      have here : ¬ Placed.depth ⟨e, around⟩ < last := by omega
      rw [if_neg more, filter_depth_placed deep]
      simp only [Placed.entry, if_neg here, Outline.entries, List.map_nil, e]

theorem mem_preorder_of_mem_elements {f : Forest} {e : Element} (among : e ∈ f.elements) :
    e ∈ f.preorder := by
  induction f with
  | nil => cases among
  | text _ rest ih => exact ih among
  | element tags children rest _ ih =>
    rw [elements, List.mem_cons] at among
    rw [preorder, List.mem_cons, List.mem_append]
    exact among.imp_right fun after => Or.inr (ih after)

theorem elements_sublist_toNodes (f : Forest) : (f.elements.map Node.element).Sublist f.toNodes := by
  induction f with
  | nil => exact List.Sublist.refl []
  | text _ rest ih => exact ih.cons _
  | element tags children rest _ ih => exact ih.cons_cons _

end Forest

/-! ## What an entry tells -/

theorem trimBoth_eq_nil_iff {p : Char → Bool} {cs : List Char} :
    trimBoth p cs = [] ↔ ∀ c ∈ cs, p c = true := by
  simp only [trimBoth, List.reverse_eq_nil_iff, List.dropWhile_eq_nil_iff, List.mem_reverse]
  constructor
  · intro rest c among
    rw [← cs.takeWhile_append_dropWhile (p := p), List.mem_append] at among
    rcases among with taken | left
    · exact List.mem_takeWhile_imp taken
    · exact rest c left
  · intro all c left
    exact all c ((List.dropWhile_suffix p).subset left)

namespace Element

variable {s : Source} {e : Element} (found : e ∈ (parse s.text).nodes.preorder)

include found

theorem innerText?_eq_some_iff {piece : List Char} :
    e.innerText? s = some piece ↔ ∃ inner ∈ e.inner?, TextAt s.text inner piece := by
  have read : ∀ inner ∈ e.inner?, ∀ piece, TextAt s.text inner piece →
      e.innerText? s = some piece := by
    intro inner between piece there
    rw [innerText?, between, Option.bind_some, Source.slice?_of_textAt there]
  constructor
  · intro known
    have paired : e.isPaired = true := by
      cases closed : e.closing? with
      | none => simp [innerText?, ElementTags.inner?, closed] at known
      | some closing => exact ElementTags.isPaired_iff.2 ⟨closing, closed⟩
    obtain ⟨inner, piece', between, there⟩ := exists_innerText found paired
    cases known.symm.trans (read inner between piece' there)
    exact ⟨inner, between, there⟩
  · rintro ⟨inner, between, there⟩
    exact read inner between piece there

/-- The detail of an element is the text that it shows. -/
theorem detail?_eq_some_iff {detail : String} :
    e.detail? s = some detail ↔
      ∃ piece, e.ShowsText s.text piece ∧ detail = String.ofList (trimBoth isBlank piece) := by
  by_cases leaf : e.children.elements = []
  · have visible : ∀ piece, (!(trimBoth isBlank piece).isEmpty) = true ↔
        ∃ c ∈ piece, isBlank c = false := by
      intro piece
      simp [trimBoth_eq_nil_iff]
    simp only [detail?, leaf, List.isEmpty_nil, if_true, Option.map_eq_some_iff,
      Option.filter_eq_some_iff]
    constructor
    · rintro ⟨-, ⟨⟨piece, known, rfl⟩, some⟩, rfl⟩
      obtain ⟨inner, between, there⟩ := (innerText?_eq_some_iff found).1 known
      refine ⟨piece, ⟨?_, leaf, ⟨inner, between, there⟩, (visible piece).1 some⟩, rfl⟩
      obtain ⟨closing, closed, -⟩ := Option.map_eq_some_iff.1 between
      exact ElementTags.isPaired_iff.2 ⟨closing, closed⟩
    · rintro ⟨piece, shows, rfl⟩
      have known := (innerText?_eq_some_iff found).2 shows.there
      exact ⟨_, ⟨⟨piece, known, rfl⟩, (visible piece).2 shows.visible⟩, rfl⟩
  · constructor
    · intro known
      rw [detail?, if_neg (by simpa using leaf)] at known
      cases known
    · rintro ⟨piece, shows, -⟩
      exact absurd shows.leaf leaf

end Element

/-- What is below a symbol and its detail are on the wire just if they are there. -/
theorem Outline.exists_members (symbol : OutlineSymbol) (below : Outline) :
    ∃ members, (entry symbol below .nil).toJson = [.obj members] ∧
      ((∃ children, ("children", children) ∈ members) ↔ below.isEmpty = false) ∧
      ∀ detail, ("detail", detail) ∈ members ↔ ∃ text ∈ symbol.detail?, detail = .str text := by
  refine ⟨_, rfl, ?_, ?_⟩
  · cases below.isEmpty <;> simp [OutlineSymbol.members]
  · intro detail
    cases below.isEmpty <;> simp [OutlineSymbol.members, eq_comm (a := detail)]

namespace Placed

variable {s : Source} {last : Nat} {p : Placed}

theorem symbols_below_entry (s : Source) (last : Nat) (p : Placed) :
    (p.entry s last).below.symbols =
      if p.depth < last then p.element.children.elements.map (·.symbol s) else [] := by
  rw [entry, apply_ite Outline.symbols, Forest.symbols_outline]
  rfl

theorem symbols_below_sublist (s : Source) (last : Nat) (p : Placed) :
    (p.entry s last).below.symbols.Sublist (p.element.children.elements.map (·.symbol s)) := by
  rw [symbols_below_entry]
  split
  · exact List.Sublist.refl _
  · exact List.nil_sublist _

/-- There is something below an entry just if the element has children on a level that is kept. -/
theorem isEmpty_below_entry_iff :
    (p.entry s last).below.isEmpty = false ↔
      ∃ child ∈ p.element.children.elements, depth ⟨child, p.element :: p.around⟩ ≤ last := by
  rw [← Bool.not_eq_true, Outline.isEmpty_iff, symbols_below_entry]
  show ¬ _ ↔ ∃ child ∈ p.element.children.elements, p.depth < last
  by_cases more : p.depth < last
  · simp [more, List.eq_nil_iff_forall_not_mem]
  · simp [more]

/-- An entry tells what it is to tell about its element. -/
theorem pictures_entry (found : p ∈ (parse s.text).nodes.placed []) :
    (p.entry s last).Pictures s last p := by
  have there := Forest.mem_preorder_of_mem_placed found
  obtain ⟨members, json, children, details⟩ :=
    Outline.exists_members (p.element.symbol s) (p.entry s last).below
  refine ⟨rfl, rfl, rfl, rfl, rfl, members, json, children.trans isEmpty_below_entry_iff, ?_⟩
  intro detail
  rw [details]
  constructor
  · rintro ⟨text, known, rfl⟩
    obtain ⟨piece, shows, rfl⟩ := (Element.detail?_eq_some_iff there).1 known
    exact ⟨piece, shows, rfl⟩
  · rintro ⟨piece, shows, rfl⟩
    exact ⟨_, (Element.detail?_eq_some_iff there).2 ⟨piece, shows, rfl⟩, rfl⟩

end Placed

/-! ## The ranges of an outline -/

theorem Source.range_within {s : Source} {inner outer : Span} (framed : IsFramed s.text inner)
    (framed' : IsFramed s.text outer) (within : inner.Within outer) :
    (s.range inner).Within (s.range outer) :=
  ⟨Source.position_le framed'.opens.isEdge.1 framed.opens.isEdge.1 within.1,
    Source.position_le framed.closes.isEdge.2 framed'.closes.isEdge.2 within.2⟩

section Ranges

variable {s : Source} {e child : Element}

/-- The tags of a pair are not empty, and they follow each other. -/
theorem Element.tags_apart (found : e ∈ (parse s.text).nodes.preorder) {closing : Span}
    (closed : e.closing? = some closing) :
    e.opening.start < e.opening.stop ∧ e.opening.stop ≤ closing.start ∧
      closing.start < closing.stop :=
  ⟨(isFramed_opening found).some, Forest.opening_le_closing (spaced_parse s.text) found closed,
    (Token.isFramed (tags_mem_tokenize found closed).2).some⟩

/-- The opening tag of an element is part of it. -/
theorem Element.opening_within (found : e ∈ (parse s.text).nodes.preorder) :
    e.opening.Within e.outer := by
  cases closed : e.closing? with
  | none =>
    rw [ElementTags.outer, closed]
    exact ⟨Nat.le_refl _, Nat.le_refl _⟩
  | some closing =>
    have apart := tags_apart found closed
    rw [ElementTags.outer_of_closing closed]
    refine ⟨Nat.le_refl _, ?_⟩
    show e.opening.stop ≤ closing.stop
    omega

/-- A child is part of its parent, behind the opening tag. -/
theorem Element.child_within (found : e ∈ (parse s.text).nodes.preorder)
    (inside : child ∈ e.children.elements) :
    child.outer.Within e.outer ∧ e.opening.stop ≤ child.outer.start := by
  have node : .element child ∈ e.children.toNodes :=
    e.children.elements_sublist_toNodes.subset (List.mem_map_of_mem inside)
  have encloses : e.Encloses child.outer :=
    (parse_laminar s.text).enclosed e ((parse s.text).descendants_eq ▸ found) _ node
  have ⟨inner, between, _⟩ := encloses
  obtain ⟨closing, closed, -⟩ := Option.map_eq_some_iff.1 between
  obtain ⟨first, last⟩ := (ElementTags.encloses_iff closed _).1 encloses
  have apart := tags_apart found closed
  rw [ElementTags.outer_of_closing closed]
  refine ⟨⟨?_, ?_⟩, first⟩
  · show e.opening.start ≤ child.outer.start
    omega
  · show child.outer.stop ≤ closing.stop
    omega

/-- Elements that follow each other have ranges that do. -/
theorem Forest.Ordered.pairwise_symbol {f : Forest} (ordered : f.Ordered)
    (own : ∀ e ∈ f.elements, e ∈ (parse s.text).nodes.preorder) :
    (f.elements.map (·.symbol s)).Pairwise fun a b => a.range.stop ≤ b.range.start := by
  have apart := List.pairwise_map.1 (ordered.sublist f.elements_sublist_toNodes)
  refine List.pairwise_map.2 (apart.imp_of_mem ?_)
  intro a b left right before
  exact Source.position_le (isFramed_outer (own a left)).closes.isEdge.2
    (isFramed_outer (own b right)).opens.isEdge.1 before

end Ranges

namespace Document

variable {s : Source}

theorem entries_outline (d : Document) (s : Source) (levels : Nat) :
    (d.outline s levels).entries [] =
      ((d.nodes.placed []).filter (·.depth ≤ max 1 levels)).map (·.entry s (max 1 levels)) :=
  Forest.entries_outline levels [] (Nat.zero_add _) d.nodes

theorem exists_of_mem_entries {d : Document} {levels : Nat} {entry : OutlineEntry}
    (among : entry ∈ (d.outline s levels).entries []) :
    ∃ p : Placed, p.element ∈ d.nodes.preorder ∧ p.entry s (max 1 levels) = entry := by
  rw [entries_outline, List.mem_map] at among
  obtain ⟨p, kept, same⟩ := among
  exact ⟨p, Forest.mem_preorder_of_mem_placed (List.mem_of_mem_filter kept), same⟩

/-- The ranges of an outline are nested because the elements are. -/
theorem wellNested_outline (s : Source) (levels : Nat) :
    ((parse s.text).outline s levels).WellNested := by
  have laminar := parse_laminar s.text
  have below : ∀ e ∈ (parse s.text).nodes.preorder, ∀ child ∈ e.children.elements,
      child ∈ (parse s.text).nodes.preorder := fun e found child inside =>
    Forest.mem_preorder_of_mem_children found (Forest.mem_preorder_of_mem_elements inside)
  constructor
  case some =>
    intro entry among
    obtain ⟨p, found, rfl⟩ := exists_of_mem_entries among
    have framed := isFramed_outer found
    exact Source.position_lt framed.opens.isEdge.1 framed.closes.isEdge.2 framed.some
  case selected =>
    intro entry among
    obtain ⟨p, found, rfl⟩ := exists_of_mem_entries among
    exact Source.range_within (isFramed_opening found) (isFramed_outer found)
      (Element.opening_within found)
  case enclosed =>
    intro entry among symbol own
    obtain ⟨p, found, rfl⟩ := exists_of_mem_entries among
    obtain ⟨child, inside, rfl⟩ :=
      List.mem_map.1 ((p.symbols_below_sublist s (max 1 levels)).subset own)
    have framed := isFramed_outer (below _ found child inside)
    obtain ⟨within, behind⟩ := Element.child_within found inside
    exact ⟨Source.range_within framed (isFramed_outer found) within,
      Source.position_le (isFramed_opening found).closes.isEdge.2 framed.opens.isEdge.1 behind⟩
  case topLevel =>
    rw [Document.outline, Forest.symbols_outline]
    exact laminar.topLevel.pairwise_symbol fun e => Forest.mem_preorder_of_mem_elements
  case siblings =>
    intro entry among
    obtain ⟨p, found, rfl⟩ := exists_of_mem_entries among
    have ordered := laminar.siblings p.element ((parse s.text).descendants_eq ▸ found)
    exact (ordered.pairwise_symbol (below _ found)).sublist (p.symbols_below_sublist s _)

end Document

/-- **An outline is a picture of the tree.** A request about an open text is answered with an
outline. Its symbols are those of the elements down to the limit, or down to the first level if the
limit is less: one for each, in the order of the tree, and inside those of the elements around it. On
the wire a symbol has children just if its element has some on a level that is kept, and a detail just
if its element shows a text, which it is without surrounding blanks. The ranges are nested as the
symbols are. -/
theorem outline_pictures_tree {s : Session} {uri : String} {stored : StoredText}
    (opened : s.documents.get? uri = some stored) :
    let text := stored.text
    let levels := max 1 s.limit
    ∃ outline, (s.act (.outline uri)).answer = .result (.outline (some outline)) ∧
      List.Forall₂ (OutlineEntry.Pictures (.ofText text) levels) (outline.entries [])
        (((parse text).nodes.placed []).filter (·.depth ≤ levels)) ∧
      outline.WellNested := by
  intro text levels
  have answer : (s.act (.outline uri)).answer =
      .result (.outline (some ((parse text).outline (.ofText text) s.limit))) := by
    rw [Session.act, opened, Option.map_some, stored.document_eq]
    show Answer.result (.outline (some ((parse text).outline stored.source s.limit))) = _
    rw [stored.source.eq_ofText]
    rfl
  refine ⟨_, answer, ?_, Document.wellNested_outline (.ofText text) s.limit⟩
  rw [Document.entries_outline, List.forall₂_map_left_iff, List.forall₂_same]
  intro p kept
  exact Placed.pictures_entry (s := .ofText text) (List.mem_of_mem_filter kept)

/-- A list, one of whose items holds an element on the third level. -/
def listedMarkup : List Char :=
  "<ul><li> a\n</li><li><b>x</b></li></ul><hr>".toList

/-- A session in which the document `a` is open and outlines have two levels. -/
def outliningSession : Session where
  documents := (∅ : Store).insert "a" (.ofText listedMarkup 1)
  limit := 2

theorem outline_pictures_listedMarkup :
    ∃ outline, (outliningSession.act (.outline "a")).answer = .result (.outline (some outline)) ∧
      (outline.entries []).map (fun entry => (entry.symbol.name, entry.around.length)) =
        [("ul", 0), ("li", 1), ("li", 1), ("hr", 0)] ∧
      outline.WellNested := by
  have opened : outliningSession.documents.get? "a" = some (.ofText listedMarkup 1) := by
    rw [outliningSession, Store.get?_insert, if_pos rfl]
  obtain ⟨outline, answer, pictures, nested⟩ := outline_pictures_tree opened
  have tree : (((parse listedMarkup).nodes.placed []).filter (·.depth ≤ 2)).map
      (fun p => (p.element.tag.name, p.around.length)) =
        [("ul", 0), ("li", 1), ("li", 1), ("hr", 0)] := by
    decide +kernel
  refine ⟨outline, answer, ?_, nested⟩
  rw [← tree, ← List.forall₂_eq_eq_eq, List.forall₂_map_left_iff, List.forall₂_map_right_iff]
  refine pictures.imp fun entry p about => ?_
  rw [about.name, about.around, List.length_map]

end Mhtml
