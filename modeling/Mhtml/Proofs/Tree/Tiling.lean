import Mathlib.Data.List.Nodup
import Mhtml.Proofs.Tree.Account

/-!
# Parsing keeps the whole text

The spans of a parsed document tile its text, and its tags are the tags of the
text, each in one place: `parse_tiles` is the main statement. It follows from
`parse_holds`, once the pieces of a forest are told apart into the text nodes,
the opening tags in document order, and the closing tags.
-/

namespace Mhtml

/-- Spans that tile stand in order and lie within the whole. -/
theorem Tiles.bounds {start stop : Nat} {ss : List Span} (tiles : Tiles start stop ss) :
    start ≤ stop ∧ ∀ s ∈ ss, start ≤ s.start ∧ s.start < s.stop ∧ s.stop ≤ stop := by
  induction ss generalizing start with
  | nil => exact ⟨Nat.le_of_eq tiles, by simp⟩
  | cons s ss ih =>
    obtain ⟨first, some, rest⟩ := tiles
    obtain ⟨le, within⟩ := ih rest
    refine ⟨by omega, ?_⟩
    intro u found
    rcases List.mem_cons.1 found with rfl | later
    · omega
    · have := within u later
      omega

theorem Tiles.pairwise {start stop : Nat} {ss : List Span} (tiles : Tiles start stop ss) :
    ss.Pairwise fun s t => s.stop ≤ t.start := by
  induction ss generalizing start with
  | nil => exact List.Pairwise.nil
  | cons s ss ih =>
    exact List.Pairwise.cons (fun t later => (tiles.2.2.bounds.2 t later).1) (ih tiles.2.2)

/-- Sorting brings a list into the order in which its keys grow. -/
theorem mergeSort_eq_of_perm {α : Type} (key : α → Nat) {found ordered : List α}
    (perm : found.Perm ordered) (increasing : ordered.Pairwise fun a b => key a < key b) :
    found.mergeSort (fun a b => decide (key a ≤ key b)) = ordered := by
  have sorted : (found.mergeSort fun a b => decide (key a ≤ key b)).Pairwise
      fun a b => key a ≤ key b := by
    refine (List.pairwise_mergeSort ?_ ?_ found).imp of_decide_eq_true
    · simp only [decide_eq_true_eq]
      omega
    · simp only [Bool.or_eq_true, decide_eq_true_eq]
      omega
  have same := (List.mergeSort_perm found fun a b => decide (key a ≤ key b)).trans perm
  have once : (ordered.map key).Nodup := List.pairwise_map.2 (increasing.imp Nat.ne_of_lt)
  refine List.Perm.eq_of_pairwise ?_ sorted (increasing.imp Nat.le_of_lt) same
  intro a b left right le ge
  exact List.inj_on_of_nodup_map once (same.subset left) right (Nat.le_antisymm le ge)

/-- Sorting brings spans that tile into order. -/
theorem Tiles.mergeSort_eq {start stop : Nat} {ss ts : List Span} (tiles : Tiles start stop ts)
    (perm : ss.Perm ts) : ss.mergeSort (·.start ≤ ·.start) = ts := by
  refine mergeSort_eq_of_perm Span.start perm (tiles.pairwise.imp_of_mem ?_)
  intro s t left _ apart
  have := tiles.bounds.2 s left
  omega

theorem ElementTags.kind_openingToken (e : ElementTags) : e.openingToken.kind ≠ .closing := by
  rw [openingToken]
  dsimp only
  split <;> decide

theorem ElementTags.kind_of_mem_closingToken? {e : ElementTags} {t : Token}
    (found : t ∈ e.closingToken?) : t.kind = .closing := by
  obtain ⟨span, -, rfl⟩ := Option.map_eq_some_iff.1 found
  rfl

namespace Forest

/-- The tags of a forest in document order. -/
def tokens (f : Forest) : List Token :=
  f.pieces.filterMap Piece.token?

theorem tokens_element (tags : ElementTags) (children rest : Forest) :
    (element tags children rest).tokens =
      tags.openingToken :: (children.tokens ++ (tags.closingToken?.toList ++ rest.tokens)) := by
  have closing : (tags.closingToken?.toList.map Piece.tag).filterMap Piece.token? =
      tags.closingToken?.toList := by
    cases tags.closingToken? <;> rfl
  simp only [tokens, pieces, List.filterMap_cons, Piece.token?, List.filterMap_append, closing,
    List.append_assoc]

/-- The opening tags of a forest are those of its elements in document order. -/
theorem filter_opening_tokens (f : Forest) :
    f.tokens.filter (·.kind ≠ .closing) = f.preorder.map (·.openingToken) := by
  induction f with
  | nil => rfl
  | text span rest ih => exact ih
  | element tags children rest ihc ihr =>
    have opens := tags.kind_openingToken
    have closes : tags.closingToken?.toList.filter (·.kind ≠ .closing) = [] := by
      rw [List.filter_eq_nil_iff]
      intro t found
      simp [ElementTags.kind_of_mem_closingToken? (Option.mem_toList.1 found)]
    rw [tokens_element, preorder, List.filter_cons_of_pos (by simpa using opens), List.filter_append,
      List.filter_append, closes, ihc, ihr, List.nil_append, List.map_cons, List.map_append]

/-- The closing tags of a forest are those of its elements. -/
theorem filter_closing_tokens (f : Forest) :
    (f.tokens.filter (·.kind = .closing)).Perm (f.preorder.filterMap (·.closingToken?)) := by
  induction f with
  | nil => exact List.Perm.refl []
  | text span rest ih => exact ih
  | element tags children rest ihc ihr =>
    have opens := tags.kind_openingToken
    have closes : tags.closingToken?.toList.filter (·.kind = .closing) =
        tags.closingToken?.toList := by
      rw [List.filter_eq_self]
      intro t found
      simp [ElementTags.kind_of_mem_closingToken? (Option.mem_toList.1 found)]
    have below : (preorder (element tags children rest)).filterMap (·.closingToken?) =
        tags.closingToken?.toList ++ (children.preorder.filterMap (·.closingToken?) ++
          rest.preorder.filterMap (·.closingToken?)) := by
      rw [preorder, List.filterMap_cons, List.filterMap_append]
      dsimp only
      cases tags.closingToken? <;> rfl
    rw [tokens_element, List.filter_cons_of_neg (by simpa using opens), List.filter_append,
      List.filter_append, closes, below, ← List.append_assoc]
    refine (List.perm_append_comm.append_right _).trans ?_
    rw [List.append_assoc]
    exact (ihc.append ihr).append_left _

end Forest

namespace Document.Holds

variable {d : Document} {start stop : Nat} {ts : List Token}

theorem filterMap_stray (d : Document) : (d.stray.map Piece.tag).filterMap Piece.token? = d.stray := by
  rw [List.filterMap_map]
  exact List.filterMap_some

/-- The tags of a document are those that cut it, each once. -/
theorem perm_tokens (holds : d.Holds (Piece.cut start stop ts)) :
    (d.nodes.tokens ++ d.stray).Perm ts := by
  have tags := holds.perm.filterMap Piece.token?
  rwa [Document.pieces, List.filterMap_append, filterMap_stray, Piece.filterMap_token?_cut] at tags

/-- The elements of a document are opened by the tags that do not close, in order. -/
theorem map_openingToken (holds : d.Holds (Piece.cut start stop ts)) :
    d.nodes.preorder.map (·.openingToken) = ts.filter (·.kind ≠ .closing) := by
  have kept : d.nodes.tokens.Sublist ts := by
    have tags := holds.kept.filterMap Piece.token?
    rwa [Piece.filterMap_token?_cut] at tags
  have none : d.stray.filter (·.kind ≠ .closing) = [] := by
    rw [List.filter_eq_nil_iff]
    intro t found
    simpa using holds.closing t found
  have same := holds.perm_tokens.filter (·.kind ≠ .closing)
  rw [List.filter_append, none, List.append_nil] at same
  rw [← Forest.filter_opening_tokens]
  exact (kept.filter _).eq_of_length same.length_eq

/-- The tags that close do so for one element each, or they are stray. -/
theorem perm_closingToken (holds : d.Holds (Piece.cut start stop ts)) :
    (d.nodes.preorder.filterMap (·.closingToken?) ++ d.stray).Perm (ts.filter (·.kind = .closing)) := by
  have all : d.stray.filter (·.kind = .closing) = d.stray := by
    rw [List.filter_eq_self]
    intro t found
    simpa using holds.closing t found
  have same := holds.perm_tokens.filter (·.kind = .closing)
  rw [List.filter_append, all] at same
  exact ((Forest.filter_closing_tokens _).symm.append_right _).trans same

theorem stray_sublist (holds : d.Holds (Piece.cut start stop ts)) : d.stray.Sublist ts := by
  have tags := holds.strays.filterMap Piece.token?
  rwa [filterMap_stray, Piece.filterMap_token?_cut] at tags

end Document.Holds

/-- **Nothing is lost or repeated.** Sorted by their starts, the spans of a parsed document tile its
text. Its opening tags are those of the text that do not close, in order, and its closing tags
together with the stray ones are those of the text that close; stray tags keep their order. -/
theorem parse_tiles (text : List Char) :
    Tiles 0 (byteSize text) (((parse text).pieces.map Piece.span).mergeSort (·.start ≤ ·.start)) ∧
    (parse text).nodes.preorder.map (·.openingToken) =
      (tokenize text).filter (·.kind ≠ .closing) ∧
    ((parse text).nodes.preorder.filterMap (·.closingToken?) ++ (parse text).stray).Perm
      ((tokenize text).filter (·.kind = .closing)) ∧
    (parse text).stray.Sublist (tokenize text) := by
  have holds := parse_holds text
  have tiles := Piece.tiles_cut (Token.inOrder_tokenize text)
  refine ⟨?_, holds.map_openingToken, holds.perm_closingToken, holds.stray_sublist⟩
  rw [tiles.mergeSort_eq (holds.perm.map Piece.span)]
  exact tiles

end Mhtml
