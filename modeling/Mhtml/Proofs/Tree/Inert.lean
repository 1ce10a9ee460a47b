import Mhtml.Proofs.Tree.Pairing
import Mhtml.Proofs.Tree.Row

/-!
# Tags without a partner

An unclosed element holds up a builder for as long as it is open: whatever follows is
kept inside it, and moves out again when it is abandoned. In the row of the builder
it is a node like any other, and taking it out changes nothing else. So a tag that is
paired with none could as well be missing: `unpaired_tag_is_inert` compares the tree
of all tags with the tree of the others.
-/

namespace Mhtml

/-! ## Taking out an element -/

/-- The forest without the element that the tag `u` opens. -/
def Forest.without (u : Token) : Forest → Forest
  | nil => nil
  | text span rest => text span (rest.without u)
  | element tags children rest =>
    if tags.openingToken = u then rest.without u
    else element tags (children.without u) (rest.without u)

/-- The document without the tag `u` and the element that it opens. -/
def Document.without (u : Token) (d : Document) : Document :=
  ⟨d.nodes.without u, d.stray.erase u⟩

/-- The node without the element that the tag `u` opens, unless it is that element. -/
def Node.without? (u : Token) : Node → Option Node
  | text span => some (text span)
  | element e =>
    if e.openingToken = u then none else some (element ⟨e.toElementTags, e.children.without u⟩)

/-- The row without the tag `u` and the element that it opens. -/
def Row.without (u : Token) (r : Row) : Row :=
  ⟨r.nodes.filterMap (Node.without? u), r.stray.filter (· != u)⟩

theorem Forest.without_ofReversed (u : Token) (nodes : List Node) :
    (ofReversed nodes).without u = ofReversed (nodes.filterMap (Node.without? u)) := by
  apply map_ofReversed rfl
  intro node rest
  cases node with
  | text span => rfl
  | element e =>
    simp only [cons, without, Node.without?]
    split <;> rfl

theorem Node.without?_of_ne {u : Token} {e : Element} (other : e.openingToken ≠ u) :
    (element e).without? u = some (element ⟨e.toElementTags, e.children.without u⟩) := by
  rw [without?, if_neg other]

theorem Node.without?_of_eq {u : Token} {e : Element} (own : e.openingToken = u) :
    (element e).without? u = none := by
  rw [without?, if_pos own]

/-- Taking something out of a node does not open or close it. -/
theorem Node.isOpen_of_without? {u : Token} {n m : Node} (kept : n.without? u = some m) (tag : Tag) :
    m.isOpen tag = n.isOpen tag := by
  cases n with
  | text span =>
    cases kept
    rfl
  | element e =>
    rw [without?, Option.ite_none_left_eq_some] at kept
    obtain ⟨-, same⟩ := kept
    cases same
    rfl

namespace Row

variable {r : Row} {t u : Token}

/-- No pair on the top level of the row has the tag. -/
def Spares (r : Row) (u : Token) : Prop :=
  ∀ e, .element e ∈ r.nodes → ∀ c ∈ e.closingToken?, e.openingToken ≠ u ∧ c ≠ u

theorem forall_isOpen_without {tag : Tag} {nodes : List Node}
    (none : ∀ n ∈ nodes, n.isOpen tag = false) :
    ∀ m ∈ nodes.filterMap (Node.without? u), m.isOpen tag = false := by
  intro m found
  obtain ⟨n, there, kept⟩ := List.mem_filterMap.1 found
  rw [Node.isOpen_of_without? kept]
  exact none n there

/-- A closing tag other than `u` does the same to the row without `u`. -/
theorem close_without {tag : Tag} (other : t ≠ u) (spares : (r.close tag t).Spares u) :
    (r.without u).close tag t = (r.close tag t).without u := by
  rcases r.close_cases tag t with
    ⟨none, after⟩ | ⟨inside, e, before, nodes, ⟨named, unclosed⟩, others, after⟩
  · rw [after, close_of_forall (forall_isOpen_without none)]
    simp [without, other]
  · -- The element that `t` closes is not that of `u`, since `u` has no partner.
    have made : .element ⟨⟨tag, e.opening, .closed t.span⟩, .ofReversed inside⟩ ∈
        (r.close tag t).nodes := by
      rw [after]
      exact List.mem_cons_self
    have apart := (spares _ made _ rfl).1
    have same : (⟨⟨tag, e.opening, .closed t.span⟩, .ofReversed inside⟩ : Element).openingToken =
        e.openingToken := by
      simp [ElementTags.openingToken, ElementTags.isSelfClosing, named, unclosed]
    have kept : (r.without u).nodes = inside.filterMap (Node.without? u) ++
        .element ⟨e.toElementTags, e.children.without u⟩ ::
          before.filterMap (Node.without? u) := by
      rw [without, nodes, List.filterMap_append, List.filterMap_cons,
        Node.without?_of_ne (same ▸ apart)]
    rw [after, close_of_split kept (Node.isOpen_element_iff.2 ⟨named, unclosed⟩)
      (forall_isOpen_without others)]
    simp only [without, List.filterMap_cons, Node.without?_of_ne apart, Forest.without_ofReversed]

/-- A tag other than `u` does the same to the row without `u`. -/
theorem step_without (other : t ≠ u) (spares : (r.step t).Spares u) :
    (r.without u).step t = (r.step t).without u := by
  unfold step at spares ⊢
  by_cases kind : t.kind = .closing
  · rw [if_pos kind] at spares ⊢
    rw [if_pos kind]
    exact close_without other spares
  · have apart : t.element.openingToken ≠ u := by rwa [Token.openingToken_element kind]
    rw [if_neg kind, if_neg kind]
    simp only [without, List.filterMap_cons, Node.without?_of_ne apart]
    rfl

/-- A tag without a partner leaves nothing but itself. -/
theorem without_step (spares : (r.step u).Spares u) : (r.step u).without u = r.without u := by
  unfold step at spares ⊢
  by_cases kind : u.kind = .closing
  · rw [if_pos kind] at spares ⊢
    rcases r.close_cases (Tag.ofName u.name) u with ⟨none, after⟩ | ⟨_, e, _, -, -, -, after⟩
    · rw [after]
      simp [without]
    · have own : (⟨.closing, (Tag.ofName u.name).name, u.span⟩ : Token) = u := by
        rw [Tag.name_ofName, ← kind]
      rw [after] at spares
      exact absurd own (spares _ List.mem_cons_self _ rfl).2
  · rw [if_neg kind]
    simp only [without, List.filterMap_cons,
      Node.without?_of_eq (Token.openingToken_element kind)]

/-- What is taken out of a row is taken out of its document. -/
theorem document_without (once : r.stray.Nodup) :
    (r.without u).document = r.document.without u := by
  simp only [document, Document.without, without, Forest.without_ofReversed,
    (List.nodup_reverse.2 once).erase_eq_filter, List.filter_reverse]

end Row

/-! ## Runs with and without a tag -/

/-- The tag belongs to no pair. -/
def Token.Unpaired (tokens : List Token) (u : Token) : Prop :=
  ∀ o c, Pairs tokens o c → o ≠ u ∧ c ≠ u

namespace Builder

open Token

variable {tokens used rest : List Token} {b : Builder} {u : Token}

/-- The pairs that a builder has made do without a tag that belongs to none. -/
theorem Tracks.spares_row (tracks : Tracks tokens used b) (unpaired : Unpaired tokens u) :
    b.row.Spares u := by
  intro e found c closes
  obtain ⟨node, there, kept⟩ := List.mem_filterMap.1 found
  cases node with
  | text span => cases kept
  | element d =>
    cases kept
    have among : d ∈ b.finish.preorder :=
      mem_preorder_finish.2 ⟨.element d, there, List.mem_cons_self⟩
    have same : (d.skeleton 0).toElementTags = d.toElementTags := d.toElementTags.shift_zero
    rw [same] at closes ⊢
    exact unpaired _ _ (tracks.paired d among c closes)

/-- Leaving out a tag that belongs to no pair leaves out what it opens, and nothing else. -/
theorem Tracks.foldl_step_without (tracks : Tracks tokens used b) (tidy : b.Tidy)
    (ordered : Increasing tokens) (split : tokens = used ++ rest) (unpaired : Unpaired tokens u) :
    (rest.filter (· != u)).foldl Row.step (b.row.without u) =
      (rest.foldl Row.step b.row).without u := by
  induction rest generalizing b used with
  | nil => rfl
  | cons t rest ih =>
    have next := tracks.step ordered split
    have spares := next.spares_row unpaired
    have onward := ih next (tidy.step t) (by simp [split])
    rw [tidy.row_step] at spares onward
    rw [List.foldl_cons, ← onward]
    by_cases own : t = u
    · subst own
      rw [List.filter_cons_of_neg (by simp), Row.without_step spares]
    · rw [List.filter_cons_of_pos (by simpa using own), List.foldl_cons,
        Row.step_without own spares]

end Builder

section Parsed

open Token

variable {text : List Char} {u : Token}

/-- A tag that is an element by itself, opens an element that is not closed, or strays belongs to no
pair. -/
theorem unpaired_of_alone
    (alone : u.kind = .selfClosing ∨
      (u.kind = .opening ∧ ∃ e ∈ (parse text).nodes.preorder,
        e.openingToken = u ∧ e.isPaired = false) ∨
      u ∈ (parse text).stray) : Unpaired (tokenize text) u := by
  intro o c pair
  have opens := pair.live.opens
  have closes := pair.closing
  rcases alone with single | ⟨opening, e, found, own, unpaired⟩ | stray
  · constructor
    · rintro rfl
      simp [single] at opens
    · rintro rfl
      simp [single] at closes
  · constructor
    · rintro rfl
      subst own
      have closed := (closingToken?_eq_some_iff found).2 pair
      rw [ElementTags.closingToken?, ElementTags.isPaired_eq_false_iff.1 unpaired] at closed
      cases closed
    · rintro rfl
      simp [opening] at closes
  · constructor
    · rintro rfl
      rw [(parse_holds text).closing o stray] at opens
      cases opens
    · rintro rfl
      exact not_live_of_mem_stray stray o pair.live

end Parsed

/-- **Tags without a partner are inert.** If a tag is an element by itself, opens an element that is
not closed, or strays, then without it the other tags make the same elements, with the same nesting
and in the same places, and the same tags stray: only what is the tag's own is missing. -/
theorem unpaired_tag_is_inert {text : List Char} {u : Token}
    (alone : u.kind = .selfClosing ∨
      (u.kind = .opening ∧ ∃ e ∈ (parse text).descendants,
        e.openingToken = u ∧ e.isPaired = false) ∨
      u ∈ (parse text).stray) :
    (Document.ofTokens (byteSize text) ((tokenize text).erase u)).skeleton 0 =
      ((parse text).skeleton 0).without u := by
  rw [Document.descendants_eq] at alone
  let whole := (tokenize text).foldl Row.step {}
  have tags : (tokenize text).Nodup := (Token.nodup_start_tokenize text).of_map _
  have row : (parse text).skeleton 0 = whole.document := skeleton_ofTokens _ _
  have strays : whole.stray.reverse = (parse text).stray := by
    have same := congrArg Document.stray row
    exact same.symm.trans (List.map_id _)
  have once : whole.stray.Nodup := by
    rw [← List.nodup_reverse, strays]
    exact (parse_holds text).stray_sublist.nodup tags
  have run := (Builder.Tracks.start (tokenize text)).foldl_step_without Builder.tidy_empty
    (Token.increasing_tokenize text) (List.nil_append _).symm (unpaired_of_alone alone)
  calc (Document.ofTokens (byteSize text) ((tokenize text).erase u)).skeleton 0
    _ = (((tokenize text).filter (· != u)).foldl Row.step {}).document := by
        rw [tags.erase_eq_filter, skeleton_ofTokens]
    _ = (whole.without u).document := congrArg Row.document run
    _ = ((parse text).skeleton 0).without u := by rw [Row.document_without once, row]

/-- A `b` that is never closed, around a pair and inside another, and a stray tag. -/
def strandedMarkup : List Char :=
  "<div><b><p>x</p></div></i>".toList

theorem unpaired_tag_is_inert_strandedMarkup :
    let u : Token := ⟨.opening, "b", ⟨5, 8⟩⟩
    (∃ e ∈ (parse strandedMarkup).descendants, e.openingToken = u ∧ e.isPaired = false) ∧
    (Document.ofTokens (byteSize strandedMarkup) ((tokenize strandedMarkup).erase u)).skeleton 0 =
      ((parse strandedMarkup).skeleton 0).without u := by
  intro u
  have unclosed : ∃ e ∈ (parse strandedMarkup).descendants,
      e.openingToken = u ∧ e.isPaired = false := by decide +kernel
  exact ⟨unclosed, unpaired_tag_is_inert (Or.inr (Or.inl ⟨rfl, unclosed⟩))⟩

end Mhtml
