import Mathlib.Data.List.Nodup
import Mathlib.Data.List.Pairwise
import Mathlib.Logic.ExistsUnique
import Mhtml.Proofs.Token.Pattern

/-!
# Which tags a text has

`OpensTag` tells from the text alone at which offsets a tag starts: there is a
`<`, the next bracket is a `>`, and what stands between has the form of a tag's
body. `Token.OccursIn` tells what the tag there is. `tokenize_exact` says that the
tags of a text, found by the search with the pattern, are just those, one for each
such offset: none is hidden by a tag or by a bracket before it, and none is made up.
-/

namespace Mhtml

/-- A `<` stands at byte `i` and a `>` at byte `j`, with `body` between them, and `>` is the first
bracket after that `<`. -/
structure Bracketed (text : List Char) (i j : Nat) (body : List Char) : Prop where
  there : TextAt text ⟨i, j + 1⟩ ('<' :: (body ++ ['>']))
  plain : ∀ c ∈ body, Token.isBracket c = false

/-- A tag starts at a byte offset of the text. -/
def OpensTag (text : List Char) (i : Nat) : Prop :=
  ∃ j body, Bracketed text i j body ∧ HasTagForm body

namespace Token

/-- The tag stands in the text where its span says, and its kind and its name are as it is spelt. -/
def OccursIn (text : List Char) (t : Token) : Prop :=
  ∃ j body, t.span.stop = j + 1 ∧ Bracketed text t.span.start j body ∧ Spelled t.kind t.name body

theorem occursIn_iff {text : List Char} {t : Token} :
    t.OccursIn text ↔ ∃ raw, TextAt text t.span raw ∧ IsTag t.kind t.name raw := by
  constructor
  · rintro ⟨j, body, stop, ⟨there, plain⟩, spelt⟩
    rw [← stop] at there
    exact ⟨_, there, body, rfl, plain, spelt⟩
  · rintro ⟨_, there, body, rfl, plain, spelt⟩
    obtain ⟨before, after, whole, start, stop⟩ := there
    have size := byteSize_brackets body
    have last : t.span.stop = t.span.stop - 1 + 1 := by omega
    refine ⟨t.span.stop - 1, body, last, ⟨?_, plain⟩, spelt⟩
    rw [← last]
    exact ⟨before, after, whole, start, stop⟩

/-- The tags of a text are those that are spelt in it. -/
theorem mem_tokenize_iff {text : List Char} {t : Token} : t ∈ tokenize text ↔ t.OccursIn text := by
  rw [tokenize_eq_scan, occursIn_iff]
  constructor
  · intro found
    obtain ⟨before, raw, after, whole, tag, extent⟩ := exists_of_mem_scan found
    rw [Nat.zero_add] at extent
    exact ⟨raw, ⟨before, after, whole, by rw [extent], by rw [extent]⟩, tag⟩
  · rintro ⟨raw, ⟨before, after, rfl, start, stop⟩, tag⟩
    obtain ⟨found, scanned⟩ := exists_scan_append 0 before (raw ++ after)
    have extent : t = ⟨t.kind, t.name, ⟨byteSize before, byteSize before + byteSize raw⟩⟩ := by
      rw [stop, start]
    rw [List.append_assoc, scanned, tag.scan_append, Nat.zero_add, ← extent]
    exact List.mem_append_right _ List.mem_cons_self

theorem InOrder.bounds {start stop : Nat} {ts : List Token} (ordered : InOrder start stop ts) :
    ∀ t ∈ ts, start ≤ t.span.start ∧ t.span.start < t.span.stop := by
  induction ts generalizing start with
  | nil => simp
  | cons t ts ih =>
    obtain ⟨first, some, rest⟩ := ordered
    intro u found
    rcases List.mem_cons.1 found with rfl | later
    · exact ⟨first, some⟩
    · have := ih rest u later
      omega

/-- Tags in order start one after the other and do not overlap. -/
theorem InOrder.pairwise {start stop : Nat} {ts : List Token} (ordered : InOrder start stop ts) :
    ts.Pairwise fun t u => t.span.start < u.span.start ∧ t.span.stop ≤ u.span.start := by
  induction ts generalizing start with
  | nil => exact List.Pairwise.nil
  | cons t ts ih =>
    obtain ⟨-, some, rest⟩ := ordered
    refine List.Pairwise.cons ?_ (ih rest)
    intro u later
    have := rest.bounds u later
    omega

/-- No two tags of a text start at the same place. -/
theorem nodup_start_tokenize (text : List Char) : ((tokenize text).map (·.span.start)).Nodup :=
  List.pairwise_map.2 ((inOrder_tokenize text).pairwise.imp fun apart => Nat.ne_of_lt apart.1)

theorem eq_of_mem_tokenize {text : List Char} {t u : Token} (left : t ∈ tokenize text)
    (right : u ∈ tokenize text) (same : t.span.start = u.span.start) : t = u :=
  List.inj_on_of_nodup_map (nodup_start_tokenize text) left right same

/-- One of two tags ends before the other starts. -/
def Apart (t u : Token) : Prop :=
  t.span.stop ≤ u.span.start ∨ u.span.stop ≤ t.span.start

instance : Std.Symm Apart := ⟨fun _ _ => Or.symm⟩

/-- Different tags of a text do not overlap. -/
theorem apart_of_mem_tokenize {text : List Char} {t u : Token} (left : t ∈ tokenize text)
    (right : u ∈ tokenize text) (ne : t ≠ u) : t.Apart u := by
  have all : (tokenize text).Pairwise Apart :=
    (inOrder_tokenize text).pairwise.imp fun apart => Or.inl apart.2
  exact all.forall left right ne

/-- At most one tag of a text is at an offset. -/
theorem eq_of_mem_span {text : List Char} {t u : Token} {o : Nat} (left : t ∈ tokenize text)
    (right : u ∈ tokenize text) (inside : o ∈ t.span) (inside' : o ∈ u.span) : t = u := by
  by_contra ne
  rw [Span.mem_iff] at inside inside'
  rcases apart_of_mem_tokenize left right ne with before | before
  · omega
  · omega

end Token

/-- **The tags of a text are those of the grammar.** They are the matches of the pattern, each found
where the one before ends or further on. They follow each other without overlap; there is one at each
offset where the text opens a tag, and none elsewhere; and a token is among them just if the text
spells it at its span. -/
theorem tokenize_exact (text : List Char) :
    ((∃! found, tagPattern.Finds 0 text found) ∧
      ∀ found, tagPattern.Finds 0 text found →
        tokenize text = found.filterMap fun hit => Token.ofWay? hit.1 hit.2) ∧
    (tokenize text).Pairwise
      (fun t u => t.span.start < u.span.start ∧ t.span.stop ≤ u.span.start) ∧
    (∀ i, (∃! t, t ∈ tokenize text ∧ t.span.start = i) ↔ OpensTag text i) ∧
    ∀ t, t ∈ tokenize text ↔ t.OccursIn text := by
  refine ⟨Token.tokenize_eq_filterMap text, (Token.inOrder_tokenize text).pairwise, ?_,
    fun t => Token.mem_tokenize_iff⟩
  intro i
  constructor
  · rintro ⟨t, ⟨found, rfl⟩, -⟩
    obtain ⟨j, body, -, bracketed, spelt⟩ := Token.mem_tokenize_iff.1 found
    exact ⟨j, body, bracketed, spelt.hasTagForm⟩
  · rintro ⟨j, body, bracketed, form⟩
    obtain ⟨kind, name, spelt⟩ := Token.exists_spelled_iff.2 form
    have found : ⟨kind, name, ⟨i, j + 1⟩⟩ ∈ tokenize text :=
      Token.mem_tokenize_iff.2 ⟨j, body, rfl, bracketed, spelt⟩
    refine ⟨_, ⟨found, rfl⟩, ?_⟩
    rintro u ⟨among, start⟩
    exact Token.eq_of_mem_tokenize among found start

end Mhtml
