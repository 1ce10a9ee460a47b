import Mhtml.Proofs.Token.Scan

/-!
# The pattern of tags

A pattern is data here. `Pattern.ways` lists the ways in which it can match at the
head of a text, the preferred way first: a run takes as many characters as it can,
and a part that may be missing is rather there. `Pattern.Finds` is the search with a
pattern: the leftmost place with a match counts, the match there is the preferred
one, and the search goes on where it ends.

`tagPattern` is the pattern of tags. In `first?_tagPattern` its preferred way is what
`Token.read?` reads without ever trying another one, and in `tokenize_eq_filterMap`
the tags of a text are what the search with it finds.
-/

namespace Mhtml

/-- A pattern that matches characters one after the other. -/
inductive Pattern where
  /-- One character of a class. -/
  | one (p : Char → Bool)
  /-- A run of characters of a class. -/
  | run (p : Char → Bool)
  /-- A part that may be missing. -/
  | maybe (part : Pattern)
  /-- A part whose text is kept. -/
  | group (part : Pattern)
  /-- A part and what follows it. -/
  | seq (part next : Pattern)

namespace Pattern

/-- A way to match at the head of a text. -/
structure Way where
  /-- The text of each group, none for a group that is missing. -/
  groups : List (Option (List Char))
  /-- All that is matched. -/
  text : List Char
  /-- What follows. -/
  rest : List Char

/-- A way, and a way to go on from there. -/
def Way.append (v w : Way) : Way :=
  ⟨v.groups ++ w.groups, v.text ++ w.text, w.rest⟩

/-- How many groups a pattern has. -/
def groupCount : Pattern → Nat
  | one _ => 0
  | run _ => 0
  | maybe part => part.groupCount
  | group part => part.groupCount + 1
  | seq part next => part.groupCount + next.groupCount

/-- The ways to match a run, from the longest to the empty one. -/
def runs (p : Char → Bool) : List Char → List Way
  | [] => [⟨[], [], []⟩]
  | c :: cs =>
    (if p c then (runs p cs).map fun w => ⟨[], c :: w.text, w.rest⟩ else []) ++ [⟨[], [], c :: cs⟩]

/-- The ways to match at the head of a text, the preferred one first. -/
def ways : Pattern → List Char → List Way
  | one _, [] => []
  | one p, c :: cs => if p c then [⟨[], [c], cs⟩] else []
  | run p, cs => runs p cs
  | maybe part, cs => part.ways cs ++ [⟨List.replicate part.groupCount none, [], cs⟩]
  | group part, cs => (part.ways cs).map fun w => { w with groups := some w.text :: w.groups }
  | seq part next, cs => (part.ways cs).flatMap fun v => (next.ways v.rest).map v.append

/-- The preferred way to match at the head of a text. -/
def first? (p : Pattern) (cs : List Char) : Option Way :=
  (p.ways cs).head?

/-- The matches of a pattern in a text that starts at `offset`, each with its own offset: there is
none at the end of the text, or the first one is further on, or it is here and the others follow it.
The patterns searched for are those without empty matches. -/
inductive Finds (p : Pattern) : Nat → List Char → List (Nat × Way) → Prop where
  | done {offset : Nat} (none : p.first? [] = none) : p.Finds offset [] []
  | further {offset : Nat} {c : Char} {cs : List Char} {found : List (Nat × Way)}
      (none : p.first? (c :: cs) = none) (after : p.Finds (offset + c.utf8Size) cs found) :
      p.Finds offset (c :: cs) found
  | here {offset : Nat} {cs : List Char} {w : Way} {found : List (Nat × Way)}
      (first : p.first? cs = some w) (some : w.text ≠ [])
      (after : p.Finds (offset + byteSize w.text) w.rest found) :
      p.Finds offset cs ((offset, w) :: found)

/-- A search has one outcome. -/
theorem Finds.unique {p : Pattern} {offset : Nat} {cs : List Char} {found found' : List (Nat × Way)}
    (one : p.Finds offset cs found) (other : p.Finds offset cs found') : found = found' := by
  induction one generalizing found' with
  | done none =>
    cases other with
    | done => rfl
    | here first => simp [none] at first
  | further none _ ih =>
    cases other with
    | further _ after => exact ih after
    | here first => simp [none] at first
  | here first _ _ ih =>
    cases other with
    | done none => simp [none] at first
    | further none => simp [none] at first
    | here first' _ after =>
      rw [first] at first'
      cases first'
      rw [ih after]

/-! ## Preferred ways -/

theorem first?_one {p : Char → Bool} {c : Char} (holds : p c = true) (cs : List Char) :
    (one p).first? (c :: cs) = some ⟨[], [c], cs⟩ := by
  simp [first?, ways, holds]

theorem first?_run {p : Char → Bool} {cs taken rest : List Char} (cut : cs.span p = (taken, rest)) :
    (run p).first? cs = some ⟨[], taken, rest⟩ := by
  rw [List.span_eq_takeWhile_dropWhile] at cut
  cases cut
  rw [first?, ways]
  induction cs with
  | nil => rfl
  | cons c cs ih =>
    by_cases holds : p c = true
    · simp [runs, holds, ih]
    · simp [runs, holds]

theorem first?_maybe {part : Pattern} {cs : List Char} {w : Way} (first : part.first? cs = some w) :
    (maybe part).first? cs = some w := by
  rw [first?] at first
  rw [first?, ways, List.head?_append, first, Option.some_or]

theorem first?_maybe_of_none {part : Pattern} {cs : List Char} (none : part.ways cs = []) :
    (maybe part).first? cs = some ⟨List.replicate part.groupCount Option.none, [], cs⟩ := by
  rw [first?, ways, none, List.nil_append, List.head?_cons]

theorem first?_group {part : Pattern} {cs : List Char} {w : Way} (first : part.first? cs = some w) :
    (group part).first? cs = some { w with groups := some w.text :: w.groups } := by
  rw [first?] at first
  rw [first?, ways, List.head?_map, first, Option.map_some]

/-- If the preferred way of a part can go on, that is the preferred way of the whole. -/
theorem first?_seq {part next : Pattern} {cs : List Char} {v w : Way}
    (first : part.first? cs = some v) (after : next.first? v.rest = some w) :
    (seq part next).first? cs = some (v.append w) := by
  obtain ⟨others, same⟩ := List.head?_eq_some_iff.1 first
  rw [first?] at after
  rw [first?, ways, same, List.flatMap_cons, List.head?_append, List.head?_map, after,
    Option.map_some, Option.some_or]

/-! ## All ways -/

/-- The text is one for the pattern, however much of it each part takes. -/
def Matches : Pattern → List Char → Prop
  | one p, text => ∃ c, text = [c] ∧ p c = true
  | run p, text => ∀ c ∈ text, p c = true
  | maybe part, text => text = [] ∨ part.Matches text
  | group part, text => part.Matches text
  | seq part next, text => ∃ before after, text = before ++ after ∧ part.Matches before ∧
      next.Matches after

theorem matches_of_mem_runs {p : Char → Bool} {cs : List Char} {w : Way} (way : w ∈ runs p cs) :
    (∀ c ∈ w.text, p c = true) ∧ cs = w.text ++ w.rest := by
  induction cs generalizing w with
  | nil =>
    cases List.mem_singleton.1 way
    exact ⟨by simp, rfl⟩
  | cons c cs ih =>
    rw [runs, List.mem_append] at way
    rcases way with longer | empty
    · split at longer
      next holds =>
        obtain ⟨v, among, rfl⟩ := List.mem_map.1 longer
        obtain ⟨all, whole⟩ := ih among
        exact ⟨List.forall_mem_cons.2 ⟨holds, all⟩, congrArg (c :: ·) whole⟩
      next => cases longer
    · cases List.mem_singleton.1 empty
      exact ⟨by simp, rfl⟩

/-- Each way to match takes a text of the pattern off the head. -/
theorem matches_of_mem_ways {p : Pattern} {cs : List Char} {w : Way} (way : w ∈ p.ways cs) :
    p.Matches w.text ∧ cs = w.text ++ w.rest := by
  induction p generalizing cs w with
  | one p =>
    cases cs with
    | nil => cases way
    | cons c cs =>
      rw [ways] at way
      split at way
      next holds =>
        cases List.mem_singleton.1 way
        exact ⟨⟨c, rfl, holds⟩, rfl⟩
      next => cases way
  | run p => exact matches_of_mem_runs way
  | maybe part ih =>
    rw [ways, List.mem_append] at way
    rcases way with there | missing
    · exact ⟨Or.inr (ih there).1, (ih there).2⟩
    · cases List.mem_singleton.1 missing
      exact ⟨Or.inl rfl, rfl⟩
  | group part ih =>
    obtain ⟨v, among, rfl⟩ := List.mem_map.1 way
    obtain ⟨one, whole⟩ := ih among
    exact ⟨one, whole⟩
  | seq part next ih ih' =>
    rw [ways, List.mem_flatMap] at way
    obtain ⟨v, among, way⟩ := way
    obtain ⟨u, among', rfl⟩ := List.mem_map.1 way
    obtain ⟨before, whole⟩ := ih among
    obtain ⟨after, whole'⟩ := ih' among'
    refine ⟨⟨v.text, u.text, rfl, before, after⟩, ?_⟩
    rw [whole, whole', Way.append, List.append_assoc]

end Pattern

/-! ## Tags -/

section Tags

open Pattern

/-- The pattern of tags: a `<`, blanks, a slash in a group of its own if there is one, blanks, a name
in a group, characters other than brackets, and a `>`. -/
def tagPattern : Pattern :=
  .seq (.one (· == '<')) (.seq (.run isBlank) (.seq (.maybe (.group (.one (· == '/'))))
    (.seq (.run isBlank) (.seq (.group (.seq (.one Char.isAlpha) (.run Token.isNameChar)))
      (.seq (.run (!Token.isBracket ·)) (.one (· == '>')))))))

/-- The token of a match at `offset`: the first group is the slash, and the second one is the name. -/
def Token.ofWay? (offset : Nat) (w : Way) : Option Token := do
  let word ← w.groups[1]?.join
  return {
    kind :=
      if (w.groups[0]?.join).isSome then .closing
      else if (findWord? ['/', '>'] w.text).isSome then .selfClosing
      else .opening
    name := Token.lowered word
    span := ⟨offset, offset + byteSize w.text⟩ }

namespace Token

/-- The way in which the pattern matches where some parts stand. -/
def Parts.way (p : Parts) (rest : List Char) : Way :=
  ⟨[if p.slash.isEmpty then none else some ['/'], some p.word], p.raw, rest⟩

theorem Parts.Fit.first?_slash {p : Parts} (fit : p.Fit) (rest : List Char) :
    (maybe (group (.one (· == '/')))).first? (p.slash ++ (p.more ++ (p.word ++ rest))) =
      some ⟨[if p.slash.isEmpty then none else some ['/']], p.slash, p.more ++ (p.word ++ rest)⟩ := by
  rcases fit.slash with one | ⟨none, empty⟩
  · rw [one]
    exact first?_maybe (first?_group (first?_one rfl _))
  · obtain ⟨letter, chars, same, alpha⟩ := fit.name.exists_cons
    have other : letter ≠ '/' := by
      rintro rfl
      exact absurd alpha (by decide)
    rw [none, empty, same]
    refine first?_maybe_of_none ?_
    simp [ways, other]

theorem Parts.Fit.first?_name {p : Parts} (fit : p.Fit) (rest : List Char) :
    (group (.seq (.one Char.isAlpha) (.run isNameChar))).first? (p.word ++ (p.others ++ '>' :: rest)) =
      some ⟨[some p.word], p.word, p.others ++ '>' :: rest⟩ := by
  have cut := fit.span_word rest
  obtain ⟨letter, chars, same, alpha⟩ := fit.name.exists_cons
  rw [same] at cut ⊢
  have cut' : (chars ++ (p.others ++ '>' :: rest)).span isNameChar =
      (chars, p.others ++ '>' :: rest) := by
    simpa [List.span_eq_takeWhile_dropWhile, isNameChar_of_isAlpha alpha] using cut
  exact first?_group (first?_seq (first?_one alpha _) (first?_run cut'))

/-- The preferred way to match is that of the parts that stand there. -/
theorem Parts.Fit.first?_tagPattern {p : Parts} (fit : p.Fit) (rest : List Char) :
    tagPattern.first? (p.raw ++ rest) = some (p.way rest) := by
  rw [raw_append]
  exact first?_seq (first?_one rfl _) <| first?_seq (first?_run (fit.span_blanks _)) <|
    first?_seq (fit.first?_slash _) <| first?_seq (first?_run (fit.span_more _)) <|
    first?_seq (fit.first?_name _) <| first?_seq (first?_run (fit.span_others _)) <|
    first?_one rfl _

/-- What the pattern matches in some way or other stands between brackets and has the form of a
tag. -/
theorem hasTagForm_of_matches {raw : List Char} (tag : tagPattern.Matches raw) :
    ∃ body, raw = '<' :: (body ++ ['>']) ∧ (∀ c ∈ body, isBracket c = false) ∧ HasTagForm body := by
  obtain ⟨_, _, rfl, ⟨_, rfl, opens⟩, blanks, _, rfl, blank, slash, _, rfl, slashes, more, _, rfl, blank',
    _, _, rfl, ⟨_, chars, rfl, ⟨letter, rfl, alpha⟩, name⟩, others, _, rfl, plain, _, rfl, closes⟩ := tag
  cases beq_iff_eq.1 opens
  cases beq_iff_eq.1 closes
  have slashes : slash = [] ∨ slash = ['/'] := by
    rcases slashes with rfl | ⟨_, rfl, same⟩
    · exact Or.inl rfl
    · exact Or.inr (by rw [beq_iff_eq.1 same])
  have plain : ∀ c ∈ others, isBracket c = false := by
    intro c found
    simpa using plain c found
  have named : ∀ c ∈ letter :: chars, isNameChar c = true :=
    List.forall_mem_cons.2 ⟨isNameChar_of_isAlpha alpha, name⟩
  exact ⟨blanks ++ (slash ++ (more ++ letter :: (chars ++ others))), by simp,
    isBracket_eq_false_of_mem blank slashes blank' named plain,
    blanks, slash, more, letter, chars ++ others, rfl, blank, slashes, blank', alpha⟩

/-- **The reader of tags finds the preferred match of the pattern.** -/
theorem first?_tagPattern (cs : List Char) :
    tagPattern.first? cs = (read? cs).map fun m =>
      ⟨[if m.slash then some ['/'] else none, some m.word], m.raw, cs.drop m.raw.length⟩ := by
  cases read : read? cs with
  | some m =>
    obtain ⟨p, fit, rfl, rest, rfl⟩ := exists_parts_of_read? read
    have slash : (if !p.slash.isEmpty then some ['/'] else none) =
        if p.slash.isEmpty then none else some ['/'] := by
      cases p.slash <;> rfl
    rw [fit.first?_tagPattern, Option.map_some, Parts.toMatch, List.drop_left, slash]
    rfl
  | none =>
    cases all : tagPattern.ways cs with
    | nil => rw [first?, all, List.head?_nil, Option.map_none]
    | cons w others =>
      -- Another way to match would make the reader succeed.
      obtain ⟨tag, rfl⟩ := matches_of_mem_ways (all ▸ List.mem_cons_self : w ∈ tagPattern.ways cs)
      obtain ⟨body, raw, plain, form⟩ := hasTagForm_of_matches tag
      obtain ⟨kind, name, spelt⟩ := exists_spelled_iff.2 form
      have tag : IsTag kind name w.text := ⟨body, raw, plain, spelt⟩
      obtain ⟨p, fit, same, -⟩ := tag.exists_parts
      have found := fit.read?_eq w.rest
      rw [same, read] at found
      cases found

/-- The way to match that is found makes the token that is read. -/
theorem ofWay?_eq (m : Match) (offset : Nat) (rest : List Char) :
    ofWay? offset ⟨[if m.slash then some ['/'] else none, some m.word], m.raw, rest⟩ =
      some (m.token offset) := by
  simp only [ofWay?, Match.token, Match.kind, lowered]
  cases m.slash <;> rfl

/-- The search with the pattern finds the tags of a text. -/
theorem exists_finds (offset : Nat) (cs : List Char) :
    ∃ found, tagPattern.Finds offset cs found ∧
      scan offset cs = found.filterMap fun hit => ofWay? hit.1 hit.2 := by
  induction size : cs.length using Nat.strongRecOn generalizing offset cs with
  | ind n ih =>
    have first := first?_tagPattern cs
    cases read : read? cs with
    | none =>
      rw [read, Option.map_none] at first
      cases cs with
      | nil => exact ⟨[], .done first, rfl⟩
      | cons c cs =>
        have shorter : cs.length < n := by
          simp only [← size, List.length_cons]
          omega
        obtain ⟨found, finds, same⟩ := ih cs.length shorter (offset + c.utf8Size) cs rfl
        refine ⟨found, .further first finds, ?_⟩
        rw [scan, startingAt?, read, Option.map_none, Option.toList_none, List.nil_append, same]
    | some m =>
      obtain ⟨⟨rest, whole⟩, tag⟩ := isTag_of_read? read
      obtain ⟨body, raw, -⟩ := id tag
      have shorter : rest.length < n := by
        simp only [← size, whole, raw, List.length_append, List.length_cons]
        omega
      obtain ⟨found, finds, same⟩ := ih rest.length shorter (offset + byteSize m.raw) rest rfl
      rw [read, Option.map_some, whole, List.drop_left] at first
      refine ⟨_, .here (whole ▸ first) (by simp [raw]) finds, ?_⟩
      rw [whole, tag.scan_append, same, List.filterMap_cons, ofWay?_eq]
      rfl

/-- **Tags are found as the pattern matches.** The search for the pattern has one outcome, and the
tags of the text are the tokens of its matches. -/
theorem tokenize_eq_filterMap (text : List Char) :
    (∃! found, tagPattern.Finds 0 text found) ∧
      ∀ found, tagPattern.Finds 0 text found →
        tokenize text = found.filterMap fun hit => ofWay? hit.1 hit.2 := by
  obtain ⟨found, finds, same⟩ := exists_finds 0 text
  refine ⟨⟨found, finds, fun other => (Finds.unique · finds)⟩, fun other finds' => ?_⟩
  rw [finds'.unique finds, tokenize_eq_scan, same]

end Token

end Tags

end Mhtml
