import Mhtml.Proofs.Text.Slices
import Mhtml.Proofs.Token.Grammar

/-!
# The tags of a text

`Token.scan` lists the tags of a text from its head on, so that facts about
`tokenize` are inductions over the text. Text without a `<` has no tags, and a
tag hides no other one, since no `<` stands inside it. So the tags of a text lie
in order, apart from each other, with both ends at edges of characters.
-/

namespace Mhtml.Token

/-- The tags of a text that starts at `offset`, in source order. -/
def scan (offset : Nat) : List Char → List Token
  | [] => []
  | c :: cs => (startingAt? offset (c :: cs)).toList ++ scan (offset + c.utf8Size) cs

/-- Only a `<` starts a tag. -/
theorem read?_cons_of_ne {c : Char} (other : c ≠ '<') (cs : List Char) : read? (c :: cs) = none := by
  unfold read?
  split
  next same => exact absurd (List.cons.inj same).1 other
  next => rfl

theorem startingAt?_cons_of_ne {c : Char} (other : c ≠ '<') (offset : Nat) (cs : List Char) :
    startingAt? offset (c :: cs) = none := by
  rw [startingAt?, read?_cons_of_ne other, Option.map_none]

/-- Text without a `<` is passed over. -/
theorem scan_append_of_not_mem {cs : List Char} (plain : '<' ∉ cs) (offset : Nat)
    (rest : List Char) : scan offset (cs ++ rest) = scan (offset + byteSize cs) rest := by
  induction cs generalizing offset with
  | nil => simp
  | cons c cs ih =>
    have other : c ≠ '<' := fun same => plain (same ▸ List.mem_cons_self)
    rw [List.cons_append, scan, startingAt?_cons_of_ne other, Option.toList_none, List.nil_append,
      ih fun inside => plain (List.mem_cons_of_mem c inside), byteSize_cons, Nat.add_assoc]

theorem scan_of_not_mem {cs : List Char} (plain : '<' ∉ cs) (offset : Nat) :
    scan offset cs = [] := by
  have skipped := scan_append_of_not_mem plain offset []
  rwa [List.append_nil] at skipped

/-- Whatever stands before some text, the tags of that text are the last ones. -/
theorem exists_scan_append (offset : Nat) (cs rest : List Char) :
    ∃ found, scan offset (cs ++ rest) = found ++ scan (offset + byteSize cs) rest := by
  induction cs generalizing offset with
  | nil => exact ⟨[], by simp⟩
  | cons c cs ih =>
    obtain ⟨found, same⟩ := ih (offset + c.utf8Size)
    refine ⟨(startingAt? offset (c :: (cs ++ rest))).toList ++ found, ?_⟩
    rw [List.cons_append, scan, same, byteSize_cons, List.append_assoc, Nat.add_assoc]

theorem not_mem_of_not_isBracket {body : List Char} (plain : ∀ c ∈ body, isBracket c = false) :
    '<' ∉ body := by
  intro inside
  exact absurd (plain '<' inside) (by decide)

/-- A tag at the head of a text comes first, and the scan goes on after it. -/
theorem IsTag.scan_append {kind : TagKind} {name : String} {raw : List Char}
    (tag : IsTag kind name raw) (offset : Nat) (rest : List Char) :
    scan offset (raw ++ rest) =
      ⟨kind, name, ⟨offset, offset + byteSize raw⟩⟩ :: scan (offset + byteSize raw) rest := by
  have first : startingAt? offset (raw ++ rest) =
      some ⟨kind, name, ⟨offset, offset + byteSize raw⟩⟩ :=
    startingAt?_eq_some_iff.2 ⟨raw, rest, rfl, tag, rfl⟩
  obtain ⟨body, rfl, plain, _⟩ := tag
  have hidden : '<' ∉ body ++ ['>'] := by
    simpa using not_mem_of_not_isBracket plain
  rw [List.cons_append] at first ⊢
  rw [scan, first, scan_append_of_not_mem hidden, byteSize_cons, Nat.add_assoc]
  rfl

/-- The search that goes on after each tag finds what a try at each character does. -/
theorem collect_eq_scan (offset skip : Nat) (found : List Token) (cs : List Char) :
    collect offset skip found cs =
      (scan (offset + byteSize (cs.take skip)) (cs.drop skip)).reverse ++ found := by
  induction cs generalizing offset skip found with
  | nil => simp [collect, scan]
  | cons c cs ih =>
    cases skip with
    | succ skip =>
      rw [collect, if_pos (Nat.succ_pos skip), Nat.add_sub_cancel, ih, List.take_succ_cons,
        List.drop_succ_cons, byteSize_cons, Nat.add_assoc]
    | zero =>
      rw [collect, if_neg (Nat.lt_irrefl 0), List.take_zero, List.drop_zero, byteSize_nil,
        Nat.add_zero]
      cases read : read? (c :: cs) with
      | none =>
        have here : startingAt? offset (c :: cs) = none := by rw [startingAt?, read, Option.map_none]
        dsimp only
        rw [ih, scan, here, List.take_zero, List.drop_zero, byteSize_nil, Nat.add_zero,
          Option.toList_none, List.nil_append]
      | some m =>
        obtain ⟨⟨rest, whole⟩, tag⟩ := isTag_of_read? read
        have scanned := tag.scan_append offset rest
        obtain ⟨body, raw, -⟩ := tag
        rw [← whole] at scanned
        rw [raw] at scanned
        rw [raw, List.cons_append] at whole
        obtain ⟨rfl, rfl⟩ := List.cons.inj whole
        -- The characters to be passed over are those of the tag behind its `<`.
        dsimp only
        rw [ih, raw, List.length_cons, Nat.add_sub_cancel, List.take_left, List.drop_left, scanned,
          byteSize_cons, ← Nat.add_assoc, Match.token, raw, byteSize_cons, ← Nat.add_assoc,
          List.reverse_cons, List.append_assoc, List.singleton_append]
        rfl

theorem tokenize_eq_scan (text : List Char) : tokenize text = scan 0 text := by
  rw [tokenize, collect_eq_scan, List.take_zero, List.drop_zero, List.append_nil,
    List.reverse_reverse, byteSize_nil]

theorem IsTag.byteSize_pos {kind : TagKind} {name : String} {raw : List Char}
    (tag : IsTag kind name raw) : 0 < byteSize raw := by
  obtain ⟨body, rfl, _⟩ := tag
  rw [byteSize_brackets]
  omega

/-- A tag of a text is spelt somewhere in it, and its span tells where. -/
theorem exists_of_mem_scan {offset : Nat} {cs : List Char} {t : Token} (found : t ∈ scan offset cs) :
    ∃ before raw after, cs = before ++ raw ++ after ∧ IsTag t.kind t.name raw ∧
      t.span = ⟨offset + byteSize before, offset + byteSize before + byteSize raw⟩ := by
  induction cs generalizing offset with
  | nil => cases found
  | cons c cs ih =>
    rw [scan, List.mem_append, Option.mem_toList] at found
    rcases found with first | later
    · obtain ⟨raw, rest, same, tag, extent⟩ := startingAt?_eq_some_iff.1 first
      exact ⟨[], raw, rest, same, tag, extent⟩
    · obtain ⟨before, raw, after, rfl, tag, extent⟩ := ih later
      refine ⟨c :: before, raw, after, rfl, tag, ?_⟩
      rw [extent, byteSize_cons, Nat.add_assoc offset c.utf8Size]

/-- Both ends of a tag are edges of the text. -/
theorem isEdge_of_mem_tokenize {text : List Char} {t : Token} (found : t ∈ tokenize text) :
    IsEdge text t.span.start ∧ IsEdge text t.span.stop := by
  rw [tokenize_eq_scan] at found
  obtain ⟨before, raw, after, rfl, -, extent⟩ := exists_of_mem_scan found
  rw [Nat.zero_add] at extent
  rw [extent]
  exact ⟨⟨before, raw ++ after, by simp, rfl⟩, ⟨before ++ raw, after, rfl, by simp⟩⟩

/-- The tags lie in order between two offsets, apart from each other and none of them empty. -/
def InOrder : Nat → Nat → List Token → Prop
  | start, stop, [] => start ≤ stop
  | start, stop, t :: ts => start ≤ t.span.start ∧ t.span.start < t.span.stop ∧
      InOrder t.span.stop stop ts

/-- Only the first tag restricts where tags in order may start. -/
theorem InOrder.of_start {start start' stop : Nat} {ts : List Token} (ordered : InOrder start stop ts)
    (within : start' ≤ stop) (first : ∀ t ∈ ts, start' ≤ t.span.start) : InOrder start' stop ts := by
  cases ts with
  | nil => exact within
  | cons t ts => exact ⟨first t List.mem_cons_self, ordered.2⟩

/-- The tags of a text lie in order within it. -/
theorem inOrder_scan (offset : Nat) (cs : List Char) :
    InOrder offset (offset + byteSize cs) (scan offset cs) := by
  induction cs generalizing offset with
  | nil => exact Nat.le_refl offset
  | cons c cs ih =>
    have later := ih (offset + c.utf8Size)
    rw [Nat.add_assoc, ← byteSize_cons] at later
    cases first : startingAt? offset (c :: cs) with
    | none =>
      rw [scan, first, Option.toList_none, List.nil_append]
      refine later.of_start (Nat.le_add_right offset _) fun t found => ?_
      obtain ⟨before, raw, after, -, -, extent⟩ := exists_of_mem_scan found
      rw [extent, Nat.add_assoc, Nat.add_assoc]
      exact Nat.le_add_right offset _
    | some t =>
      obtain ⟨raw, rest, same, tag, extent⟩ := startingAt?_eq_some_iff.1 first
      have size : byteSize (c :: cs) = byteSize raw + byteSize rest := by rw [same, byteSize_append]
      have onward := tag.scan_append offset rest
      -- The scan after the first character finds what the scan after the tag does.
      rw [← same, scan, first, Option.toList_some, List.singleton_append] at onward
      have skipped := (List.cons.inj onward).2
      have start : t.span.start = offset := by rw [extent]
      have stop : t.span.stop = offset + byteSize raw := by rw [extent]
      have some := tag.byteSize_pos
      rw [scan, first, Option.toList_some, List.singleton_append]
      refine ⟨by omega, by omega, later.of_start (by omega) fun u found => ?_⟩
      rw [skipped] at found
      obtain ⟨before, raw', after, -, -, extent'⟩ := exists_of_mem_scan found
      rw [stop, extent']
      exact Nat.le_add_right _ _

theorem inOrder_tokenize (text : List Char) : InOrder 0 (byteSize text) (tokenize text) := by
  have ordered := inOrder_scan 0 text
  rwa [Nat.zero_add, ← tokenize_eq_scan] at ordered

end Mhtml.Token
