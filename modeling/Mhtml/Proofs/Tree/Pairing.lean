import Mhtml.Proofs.Tree.Laminar

/-!
# Which tags are partners

A builder keeps its open elements in a stack, and a closing tag looks for its
partner from the top. Which partner it finds can be told without a stack, from the
tags alone. An opening tag is live for a closing tag of its name after it, unless a
pair that was closed in the meantime covers it; and a closing tag is paired with the
latest tag that is live for it. The two are told together, by recursion over the
closing tags. `Builder.Tracks` ties the stack to this rule: what is open is what no
pair covers. `partners_are_nearest` says that a parsed document pairs by the rule.
-/

namespace Mhtml

namespace Token

/-- The pair of `o` and `c` covers the tag: it is `o` itself or stands between the two. -/
def Covers (o c t : Token) : Prop :=
  o.span.start ≤ t.span.start ∧ t.span.start < c.span.start

/-- The tag `o` is live for `c`, with the closing tags before `c` being paired as `paired` says. -/
structure LiveIn (tokens : List Token) (paired : Token → Token → Prop) (o c : Token) : Prop where
  tag : o ∈ tokens
  opens : o.kind = .opening
  before : o.span.start < c.span.start
  named : o.name = c.name
  free : ∀ o' c', c'.span.start < c.span.start → paired o' c' → ¬ Covers o' c' o

/-- The closing tag `c` is paired with `o`, the latest tag that is live for it. -/
def Pairs (tokens : List Token) (o c : Token) : Prop :=
  let earlier := fun o' c' => ∃ _ : c'.span.start < c.span.start, Pairs tokens o' c'
  (c ∈ tokens ∧ c.kind = .closing) ∧ LiveIn tokens earlier o c ∧
    ∀ o', LiveIn tokens earlier o' c → o'.span.start ≤ o.span.start
termination_by c.span.start

/-- The tag `o` is live for the closing tag `c`. -/
def Live (tokens : List Token) : Token → Token → Prop :=
  LiveIn tokens (Pairs tokens)

theorem pairs_iff {tokens : List Token} {o c : Token} :
    Pairs tokens o c ↔ (c ∈ tokens ∧ c.kind = .closing) ∧ Live tokens o c ∧
      ∀ o', Live tokens o' c → o'.span.start ≤ o.span.start := by
  -- Of the pairs only those that are closed before `c` count.
  have same : ∀ o, LiveIn tokens
      (fun o' c' => ∃ _ : c'.span.start < c.span.start, Pairs tokens o' c') o c ↔
      Live tokens o c := by
    intro o
    constructor
    · intro live
      refine ⟨live.tag, live.opens, live.before, live.named, ?_⟩
      intro o' c' before pair
      exact live.free o' c' before ⟨before, pair⟩
    · intro live
      refine ⟨live.tag, live.opens, live.before, live.named, ?_⟩
      rintro o' c' before ⟨-, pair⟩
      exact live.free o' c' before pair
  rw [Pairs]
  simp only [same]

section

variable {tokens : List Token} {o o' c c' : Token}

theorem Pairs.mem (pair : Pairs tokens o c) : c ∈ tokens :=
  (pairs_iff.1 pair).1.1

theorem Pairs.closing (pair : Pairs tokens o c) : c.kind = .closing :=
  (pairs_iff.1 pair).1.2

theorem Pairs.live (pair : Pairs tokens o c) : Live tokens o c :=
  (pairs_iff.1 pair).2.1

theorem Pairs.latest (pair : Pairs tokens o c) (live : Live tokens o' c) :
    o'.span.start ≤ o.span.start :=
  (pairs_iff.1 pair).2.2 o' live

/-- The tags start one after the other. -/
def Increasing (tokens : List Token) : Prop :=
  tokens.Pairwise fun t u => t.span.start < u.span.start

theorem Increasing.eq_of_start (ordered : Increasing tokens) {t u : Token} (left : t ∈ tokens)
    (right : u ∈ tokens) (same : t.span.start = u.span.start) : t = u := by
  have once : (tokens.map (·.span.start)).Nodup := by
    apply List.pairwise_map.2
    exact ordered.imp Nat.ne_of_lt
  exact List.inj_on_of_nodup_map once left right same

theorem increasing_tokenize (text : List Char) : Increasing (tokenize text) :=
  (inOrder_tokenize text).pairwise.imp And.left

/-- A closing tag has one partner. -/
theorem Pairs.unique (ordered : Increasing tokens) (left : Pairs tokens o c)
    (right : Pairs tokens o' c) : o = o' := by
  apply ordered.eq_of_start left.live.tag right.live.tag
  have := left.latest right.live
  have := right.latest left.live
  omega

/-- Of two pairs that overlap one lies inside the other. -/
theorem Pairs.nested (ordered : Increasing tokens) (outer : Pairs tokens o c)
    (inner : Pairs tokens o' c') (after : o.span.start < o'.span.start)
    (before : o'.span.start < c.span.start) : c'.span.start < c.span.start := by
  by_contra late
  by_cases same : c.span.start = c'.span.start
  · cases ordered.eq_of_start outer.mem inner.mem same
    have := outer.latest inner.live
    omega
  · -- The outer pair is closed first and covers the tag that opens the inner one.
    apply inner.live.free o c (by omega) outer
    exact ⟨by omega, before⟩

/-- No pair that is closed by one of these tags covers the tag. -/
def Uncovered (tokens used : List Token) (t : Token) : Prop :=
  ∀ o c, c ∈ used → Pairs tokens o c → ¬ Covers o c t

theorem uncovered_concat_iff {used : List Token} {t u : Token} :
    Uncovered tokens (used ++ [u]) t ↔
      Uncovered tokens used t ∧ ∀ o, Pairs tokens o u → ¬ Covers o u t := by
  simp only [Uncovered, List.mem_append, List.mem_singleton]
  grind

end

end Token

/-- The opening tag of an open element as a token. -/
def OpenElement.token (e : OpenElement) : Token :=
  ⟨.opening, e.tag.name, e.opening⟩

namespace Builder

open Token

/-- A builder that has taken in the tags `used` follows the rule for all `tokens`. -/
structure Tracks (tokens used : List Token) (b : Builder) : Prop where
  /-- The open elements have names that stand for themselves. -/
  named : ∀ e ∈ b.context.toList, Tag.ofName e.tag.name = e.tag
  /-- What is open is what no pair covers. -/
  opened : ∀ o, (∃ e ∈ b.context.toList, e.token = o) ↔
    o ∈ used ∧ o.kind = .opening ∧ Uncovered tokens used o
  /-- The innermost open element is the latest. -/
  inward : b.context.toList.Pairwise fun inner outer => outer.opening.start < inner.opening.start
  /-- Elements with both tags are pairs. -/
  paired : ∀ e ∈ b.finish.preorder, ∀ c ∈ e.closingToken?, Pairs tokens e.openingToken c
  /-- Nothing was live for a stray tag. -/
  stray : ∀ c ∈ b.stray, ∀ o, ¬ Live tokens o c

namespace Tracks

variable {tokens used rest : List Token} {b : Builder} {t : Token}

theorem start (tokens : List Token) : Tracks tokens [] {} where
  named := by
    intro e found
    cases found
  opened := by
    intro o
    constructor
    · rintro ⟨e, found, -⟩
      cases found
    · rintro ⟨found, -⟩
      cases found
  inward := List.Pairwise.nil
  paired := by
    intro e found
    cases found
  stray := by
    intro c found
    cases found

theorem fill (tracks : Tracks tokens used b) (offset cursor : Nat) :
    Tracks tokens used { b.fill offset with cursor } := by
  constructor
  case named =>
    show ∀ e ∈ (b.fill offset).context.toList, _
    rw [context_fill]
    exact tracks.named
  case opened =>
    show ∀ o, (∃ e ∈ (b.fill offset).context.toList, e.token = o) ↔ _
    rw [context_fill]
    exact tracks.opened
  case inward =>
    show (b.fill offset).context.toList.Pairwise _
    rw [context_fill]
    exact tracks.inward
  case paired =>
    intro e found
    exact tracks.paired e (mem_preorder_fill found)
  case stray =>
    show ∀ c ∈ (b.fill offset).stray, _
    rw [stray_fill]
    exact tracks.stray

section Next

variable (tracks : Tracks tokens used b) (ordered : Increasing tokens)
  (split : tokens = used ++ t :: rest)

include ordered split

/-- The tags taken in are those before the next one. -/
theorem mem_used_iff {u : Token} :
    u ∈ used ↔ u ∈ tokens ∧ u.span.start < t.span.start := by
  rw [Increasing, split, List.pairwise_append, List.pairwise_cons] at ordered
  obtain ⟨-, ⟨later, -⟩, earlier⟩ := ordered
  rw [split]
  constructor
  · intro found
    exact ⟨List.mem_append_left _ found, earlier u found t List.mem_cons_self⟩
  · rintro ⟨found, before⟩
    rcases List.mem_append.1 found with here | there
    · exact here
    · rcases List.mem_cons.1 there with rfl | after
      · omega
      · have := later u after
        omega

include tracks

/-- What is live for the next tag is what is open and has its name. -/
theorem live_iff {o : Token} :
    Live tokens o t ↔ ∃ e ∈ b.context.toList, e.tag = Tag.ofName t.name ∧ e.token = o := by
  constructor
  · intro live
    have known : o ∈ used := (mem_used_iff ordered split).2 ⟨live.tag, live.before⟩
    have free : Uncovered tokens used o := by
      intro o' c among pair
      exact live.free o' c ((mem_used_iff ordered split).1 among).2 pair
    obtain ⟨e, found, rfl⟩ := (tracks.opened o).2 ⟨known, live.opens, free⟩
    refine ⟨e, found, ?_, rfl⟩
    rw [← tracks.named e found]
    exact congrArg Tag.ofName live.named
  · rintro ⟨e, found, named, rfl⟩
    obtain ⟨known, opens, free⟩ := (tracks.opened e.token).1 ⟨e, found, rfl⟩
    obtain ⟨tag, before⟩ := (mem_used_iff ordered split).1 known
    refine ⟨tag, opens, before, ?_, ?_⟩
    · show e.tag.name = t.name
      rw [named, Tag.name_ofName]
    · intro o' c' earlier pair
      exact free o' c' ((mem_used_iff ordered split).2 ⟨pair.mem, earlier⟩) pair

/-- The next tag is paired with the innermost open element of its name. -/
theorem pairs_opened (kind : t.kind = .closing) {inner outer : List OpenElement}
    {opened : OpenElement} (context : b.context.toList = inner ++ opened :: outer)
    (named : opened.tag = Tag.ofName t.name) (others : ∀ e ∈ inner, e.tag ≠ Tag.ofName t.name) :
    Pairs tokens opened.token t := by
  have there : opened ∈ b.context.toList := by
    rw [context]
    simp
  have inward := tracks.inward
  rw [context, List.pairwise_append, List.pairwise_cons] at inward
  rw [pairs_iff]
  refine ⟨⟨?_, kind⟩, ?_, ?_⟩
  · rw [split]
    simp
  · rw [live_iff tracks ordered split]
    exact ⟨opened, there, named, rfl⟩
  · intro o live
    obtain ⟨e, found, same, rfl⟩ := (live_iff tracks ordered split).1 live
    rw [context, List.mem_append, List.mem_cons] at found
    rcases found with inside | rfl | around
    · exact absurd same (others e inside)
    · exact Nat.le_refl _
    · exact Nat.le_of_lt (inward.2.1.1 e around)

/-- The open elements around the one that the next tag closes are those that no pair covers then. -/
theorem opened_outer (kind : t.kind = .closing) {inner outer : List OpenElement}
    {opened : OpenElement} (context : b.context.toList = inner ++ opened :: outer)
    (named : opened.tag = Tag.ofName t.name) (others : ∀ e ∈ inner, e.tag ≠ Tag.ofName t.name)
    (o : Token) :
    (∃ e ∈ outer, e.token = o) ↔
      o ∈ used ++ [t] ∧ o.kind = .opening ∧ Uncovered tokens (used ++ [t]) o := by
  have pair := pairs_opened tracks ordered split kind context named others
  have inward := tracks.inward
  rw [context, List.pairwise_append, List.pairwise_cons] at inward
  obtain ⟨-, ⟨around, -⟩, inside⟩ := inward
  -- Of what was open, the outer elements are those before the one that is closed.
  have outside : (∃ e ∈ outer, e.token = o) ↔
      (∃ e ∈ b.context.toList, e.token = o) ∧ o.span.start < opened.opening.start := by
    rw [context]
    constructor
    · rintro ⟨e, found, rfl⟩
      refine ⟨⟨e, ?_, rfl⟩, around e found⟩
      simp [found]
    · rintro ⟨⟨e, found, rfl⟩, before⟩
      refine ⟨e, ?_, rfl⟩
      have before : e.opening.start < opened.opening.start := before
      rcases List.mem_append.1 found with within | found
      · have := inside e within opened List.mem_cons_self
        omega
      · rcases List.mem_cons.1 found with rfl | found
        · omega
        · exact found
  rw [outside, tracks.opened, uncovered_concat_iff, List.mem_append, List.mem_singleton]
  constructor
  · rintro ⟨⟨known, opens, free⟩, before⟩
    refine ⟨Or.inl known, opens, free, ?_⟩
    intro o' pair' covers
    cases pair'.unique ordered pair
    have : opened.opening.start ≤ o.span.start := covers.1
    omega
  · rintro ⟨known | rfl, opens, free, last⟩
    · refine ⟨⟨known, opens, free⟩, ?_⟩
      by_contra late
      apply last _ pair
      exact ⟨Nat.not_lt.1 late, ((mem_used_iff ordered split).1 known).2⟩
    · rw [kind] at opens
      cases opens

/-- A tag that is not paired adds itself to what is open, if it opens something. -/
theorem opened_concat (alone : ∀ o, ¬ Pairs tokens o t) (o : Token) :
    (o = t ∧ t.kind = .opening ∨ ∃ e ∈ b.context.toList, e.token = o) ↔
      o ∈ used ++ [t] ∧ o.kind = .opening ∧ Uncovered tokens (used ++ [t]) o := by
  have free : Uncovered tokens used t := by
    intro o c among pair covers
    have := ((mem_used_iff ordered split).1 among).2
    have := covers.2
    omega
  rw [tracks.opened, uncovered_concat_iff, List.mem_append, List.mem_singleton]
  constructor
  · rintro (⟨rfl, opens⟩ | ⟨known, opens, free⟩)
    · exact ⟨Or.inr rfl, opens, free, fun o pair => absurd pair (alone o)⟩
    · exact ⟨Or.inl known, opens, free, fun o pair => absurd pair (alone o)⟩
  · rintro ⟨known | rfl, opens, free, -⟩
    · exact Or.inr ⟨known, opens, free⟩
    · exact Or.inl ⟨rfl, opens⟩

/-- The elements with both tags are pairs after the next tag, too. -/
theorem paired_accept {e : Element} (found : e ∈ (b.accept t).finish.preorder) {c : Token}
    (closes : c ∈ e.closingToken?) : Pairs tokens e.openingToken c := by
  rcases mem_preorder_accept found with made | old
  · cases made with
    | selfClosing => cases closes
    | unclosed => cases closes
    | @closed kind inner outer opened context named others =>
      have own : (⟨.closing, (Tag.ofName t.name).name, t.span⟩ : Token) = t := by
        rw [Tag.name_ofName, ← kind]
      have same : c = t := own ▸ (Option.some.inj closes).symm
      have pair := pairs_opened tracks ordered split kind context named others
      rw [OpenElement.token, named] at pair
      rw [same]
      exact pair
  · exact tracks.paired e old c closes

/-- A builder goes on to follow the rule when it takes in the next tag. -/
theorem accept : Tracks tokens (used ++ [t]) (b.accept t) := by
  have paired : ∀ e ∈ (b.accept t).finish.preorder, ∀ c ∈ e.closingToken?,
      Pairs tokens e.openingToken c :=
    fun e found c => paired_accept tracks ordered split found
  have alone : t.kind ≠ .closing → ∀ o, ¬ Pairs tokens o t :=
    fun other o pair => other pair.closing
  unfold Builder.accept at paired ⊢
  cases kind : t.kind with
  | selfClosing =>
    rw [kind] at paired
    refine ⟨tracks.named, ?_, tracks.inward, paired, tracks.stray⟩
    intro o
    have opened := opened_concat tracks ordered split (alone (by simp [kind])) o
    simpa [kind, Builder.push] using opened
  | opening =>
    rw [kind] at paired
    have own : OpenElement.token ⟨Tag.ofName t.name, t.span, b.siblings⟩ = t := by
      rw [OpenElement.token, Tag.name_ofName, ← kind]
    refine ⟨?_, ?_, ?_, paired, tracks.stray⟩
    · intro e found
      rcases List.mem_cons.1 found with rfl | old
      · simp
      · exact tracks.named e old
    · intro o
      have opened := opened_concat tracks ordered split (alone (by simp [kind])) o
      simpa [kind, OpenElements.push, own, eq_comm] using opened
    · refine List.Pairwise.cons ?_ tracks.inward
      intro e found
      have known := ((tracks.opened e.token).1 ⟨e, found, rfl⟩).1
      exact ((mem_used_iff ordered split).1 known).2
  | closing =>
    rw [kind] at paired
    dsimp only at paired ⊢
    rcases b.close_cases (Tag.ofName t.name) t with
      ⟨missing, after⟩ | ⟨inner, opened, outer, context, named, others, after⟩
    · have lifeless : ∀ o, ¬ Live tokens o t := by
        intro o live
        obtain ⟨e, found, named, -⟩ := (live_iff tracks ordered split).1 live
        exact missing e found named
      rw [after] at paired ⊢
      refine ⟨tracks.named, ?_, tracks.inward, paired, ?_⟩
      · intro o
        have opened := opened_concat tracks ordered split (fun o pair => lifeless o pair.live) o
        simpa [kind] using opened
      · intro c found
        rcases List.mem_cons.1 found with rfl | old
        · exact lifeless
        · exact tracks.stray c old
    · rw [after] at paired ⊢
      refine ⟨?_, ?_, ?_, paired, tracks.stray⟩
      · intro e found
        apply tracks.named
        rw [context]
        exact List.mem_append_right _ (List.mem_cons_of_mem _ found)
      · exact opened_outer tracks ordered split kind context named others
      · have inward := tracks.inward
        rw [context, List.pairwise_append, List.pairwise_cons] at inward
        exact inward.2.1.2

end Next

theorem step (tracks : Tracks tokens used b) (ordered : Increasing tokens)
    (split : tokens = used ++ t :: rest) : Tracks tokens (used ++ [t]) (b.step t) :=
  (tracks.fill t.span.start t.span.stop).accept ordered split

/-- A builder follows the rule to the end. -/
theorem foldl_step (tracks : Tracks tokens used b) (ordered : Increasing tokens)
    (split : tokens = used ++ rest) : Tracks tokens tokens (rest.foldl Builder.step b) := by
  induction rest generalizing b used with
  | nil =>
    rw [List.append_nil] at split
    subst split
    exact tracks
  | cons t rest ih =>
    apply ih (tracks.step ordered split)
    rw [split, List.append_assoc, List.singleton_append]

end Tracks

end Builder

section Parsed

open Token

variable {text : List Char}

/-- The elements of a parsed document that have both tags are pairs. -/
theorem pairs_of_closingToken {e : Element} (found : e ∈ (parse text).nodes.preorder) {c : Token}
    (closes : e.closingToken? = some c) : Pairs (tokenize text) e.openingToken c := by
  have tracks := (Builder.Tracks.start (tokenize text)).foldl_step (increasing_tokenize text) rfl
  exact tracks.paired e (Builder.mem_preorder_fill found) c closes

/-- Nothing is live for a stray tag of a parsed document. -/
theorem not_live_of_mem_stray {c : Token} (stray : c ∈ (parse text).stray) (o : Token) :
    ¬ Live (tokenize text) o c := by
  have tracks := (Builder.Tracks.start (tokenize text)).foldl_step (increasing_tokenize text) rfl
  apply tracks.stray
  rw [parse, Document.ofTokens] at stray
  dsimp only at stray
  rwa [Builder.stray_fill, List.mem_reverse] at stray

/-- A pair of tags belongs to an element. -/
theorem exists_element_of_pairs {o c : Token} (pair : Pairs (tokenize text) o c) :
    ∃ e ∈ (parse text).nodes.preorder, e.openingToken = o ∧ e.closingToken? = some c := by
  rcases (mem_tokenize_closing_iff pair.closing).1 pair.mem with ⟨e, found, closes⟩ | stray
  · refine ⟨e, found, ?_, closes⟩
    exact (pairs_of_closingToken found closes).unique (increasing_tokenize text) pair
  · exact absurd pair.live (not_live_of_mem_stray stray o)

theorem closingToken?_eq_some_iff {e : Element} (found : e ∈ (parse text).nodes.preorder) {c : Token} :
    e.closingToken? = some c ↔ Pairs (tokenize text) e.openingToken c := by
  constructor
  · exact pairs_of_closingToken found
  · intro pair
    obtain ⟨d, there, opens, closes⟩ := exists_element_of_pairs pair
    have one := Forest.eq_of_opening_eq (spaced_parse text) there found (congrArg Token.span opens)
    rwa [← one]

end Parsed

/-- **Closing tags pair with the nearest live opening tag.** A closing tag strays just if nothing is
live for it. Otherwise it closes the element that the latest live tag opens. An element that is opened
by such a tag is unclosed just if no closing tag is paired with that. Of two pairs that overlap one
lies inside the other. -/
theorem partners_are_nearest (text : List Char) :
    let tokens := tokenize text
    (∀ c ∈ tokens, c.kind = .closing →
      (c ∈ (parse text).stray ↔ ∀ o, ¬ Token.Live tokens o c)) ∧
    (∀ c ∈ tokens, c.kind = .closing → (∃ o, Token.Live tokens o c) →
      ∃ o, (Token.Live tokens o c ∧ ∀ o', Token.Live tokens o' c → o'.span.start ≤ o.span.start) ∧
        ∃ e ∈ (parse text).descendants, e.openingToken = o ∧ e.closing? = some c.span) ∧
    (∀ e ∈ (parse text).descendants, e.openingToken.kind = .opening →
      (e.isPaired = false ↔ ∀ c, ¬ Token.Pairs tokens e.openingToken c)) ∧
    ∀ o c o' c', Token.Pairs tokens o c → Token.Pairs tokens o' c' →
      o.span.start < o'.span.start → o'.span.start < c.span.start → c'.span.start < c.span.start := by
  intro tokens
  rw [Document.descendants_eq]
  refine ⟨?_, ?_, ?_, ?_⟩
  · intro c tag kind
    constructor
    · exact not_live_of_mem_stray
    · intro lifeless
      rcases (mem_tokenize_closing_iff kind).1 tag with ⟨e, found, closes⟩ | stray
      · exact absurd (pairs_of_closingToken found closes).live (lifeless _)
      · exact stray
  · rintro c tag kind ⟨o, live⟩
    rcases (mem_tokenize_closing_iff kind).1 tag with ⟨e, found, closes⟩ | stray
    · have pair := pairs_of_closingToken found closes
      refine ⟨e.openingToken, ⟨pair.live, fun o' live' => pair.latest live'⟩, e, found, rfl, ?_⟩
      obtain ⟨span, closing, rfl⟩ := Option.map_eq_some_iff.1 closes
      exact closing
    · exact absurd live (not_live_of_mem_stray stray o)
  · intro e found _
    have rule : ∀ c, Token.Pairs tokens e.openingToken c ↔ e.closingToken? = some c :=
      fun c => (closingToken?_eq_some_iff found).symm
    simp only [rule, ElementTags.isPaired_eq_false_iff, ElementTags.closingToken?]
    cases e.closing? <;> simp
  · intro o c o' c' outer inner
    exact outer.nested (Token.increasing_tokenize text) inner

end Mhtml
