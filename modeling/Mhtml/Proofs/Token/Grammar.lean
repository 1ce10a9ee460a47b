import Mhtml.Token
import Mhtml.Proofs.Text.Slices

/-!
# The grammar of tags

How a tag is spelt, told without reading one: between its brackets stand blanks,
a slash if it closes an element, blanks again, a name, and whatever does not
lengthen the name. `startingAt?_eq_some_iff` says that the reader of tags finds
exactly what is spelt so, and `exists_spelled_iff` what can stand between the
brackets of a tag.
-/

namespace Mhtml.Token

/-- `word` is the whole name at the head of `word ++ rest`. -/
structure IsName (word rest : List Char) : Prop where
  letter : ∃ c ∈ word.head?, c.isAlpha = true
  chars : ∀ c ∈ word, isNameChar c = true
  ends : ∀ c ∈ rest.head?, isNameChar c = false

/-- A name in lower case. -/
def lowered (word : List Char) : String :=
  String.ofList (word.map Char.toLower)

/-- What a tag without a slash at its head does: it closes itself if a slash ends it. -/
def plainKind (body : List Char) : TagKind :=
  if body.getLast? = some '/' then .selfClosing else .opening

/-- The spelling of a tag between its brackets. -/
inductive Spelled : TagKind → String → List Char → Prop where
  | closing {blanks more word rest : List Char} (blank : ∀ c ∈ blanks, isBlank c = true)
      (blank' : ∀ c ∈ more, isBlank c = true) (name : IsName word rest) :
      Spelled .closing (lowered word) (blanks ++ '/' :: (more ++ (word ++ rest)))
  | plain {blanks word rest : List Char} (blank : ∀ c ∈ blanks, isBlank c = true)
      (name : IsName word rest) :
      Spelled (plainKind (blanks ++ (word ++ rest))) (lowered word) (blanks ++ (word ++ rest))

/-- The spelling of a whole tag. -/
def IsTag (kind : TagKind) (name : String) (raw : List Char) : Prop :=
  ∃ body, raw = '<' :: (body ++ ['>']) ∧ (∀ c ∈ body, isBracket c = false) ∧
    Spelled kind name body

theorem isNameChar_of_isAlpha {c : Char} (h : c.isAlpha = true) : isNameChar c = true := by
  simp [isNameChar, Char.isAlphanum, h]

/-- A letter is no blank. -/
theorem isBlank_of_isAlpha {c : Char} (h : c.isAlpha = true) : isBlank c = false := by
  have code : (65 ≤ c.toNat ∧ c.toNat ≤ 90) ∨ (97 ≤ c.toNat ∧ c.toNat ≤ 122) := by
    rcases Bool.or_eq_true_iff.1 h with upper | lower
    · exact Or.inl (of_decide_eq_true upper)
    · obtain ⟨low, high⟩ := Bool.and_eq_true_iff.1 lower
      exact Or.inr ⟨of_decide_eq_true low, of_decide_eq_true high⟩
  simp only [isBlank, blankRanges, List.any_cons, List.any_nil, Bool.or_false, Bool.or_eq_false_iff,
    Bool.and_eq_false_iff, decide_eq_false_iff_not]
  omega

theorem isBlank_slash : isBlank '/' = false := by decide

theorem IsName.exists_cons {word rest : List Char} (named : IsName word rest) :
    ∃ letter chars, word = letter :: chars ∧ letter.isAlpha = true := by
  obtain ⟨letter, first, alpha⟩ := named.letter
  obtain ⟨chars, rfl⟩ := List.head?_eq_some_iff.1 first
  exact ⟨letter, chars, rfl, alpha⟩

/-! ## The slash before the name -/

theorem splitSlash_of_ne {cs : List Char} (other : cs.head? ≠ some '/') :
    splitSlash cs = ([], cs) := by
  unfold splitSlash
  split
  next => exact absurd rfl other
  next => rfl

theorem append_of_splitSlash {cs slash rest : List Char} (cut : splitSlash cs = (slash, rest)) :
    cs = slash ++ rest ∧ (slash = [] ∨ slash = ['/']) := by
  unfold splitSlash at cut
  split at cut <;> cases cut
  · exact ⟨rfl, Or.inr rfl⟩
  · exact ⟨rfl, Or.inl rfl⟩

/-! ## The slash at the end -/

/-- Between brackets, a slash stands before a `>` just if it is the last character. -/
theorem findWordFrom?_slash {body : List Char} (plain : ∀ c ∈ body, isBracket c = false)
    (offset : Nat) :
    (findWordFrom? ['/', '>'] offset (body ++ ['>'])).isSome = decide (body.getLast? = some '/') := by
  induction body generalizing offset with
  | nil => rfl
  | cons c body ih =>
    have later := ih (fun d inside => plain d (List.mem_cons_of_mem c inside)) (offset + c.utf8Size)
    cases body with
    | nil =>
      by_cases slash : c = '/'
      · subst slash
        rfl
      · have other : ('/' == c) = false := by simpa using Ne.symm slash
        simp [findWordFrom?, List.isPrefixOf, other, slash]
    | cons d body =>
      have other : ('>' == d) = false := by
        have := plain d (by simp)
        simp [isBracket] at this
        simpa using Ne.symm this.2
      rw [List.cons_append, List.cons_append, findWordFrom?]
      rw [if_neg (by simp [List.isPrefixOf, other]), ← List.cons_append, later, List.getLast?_cons_cons]

theorem Match.kind_of_not_slash {m : Match} {body : List Char} (slash : m.slash = false)
    (whole : m.raw = '<' :: (body ++ ['>'])) (plain : ∀ c ∈ body, isBracket c = false) :
    m.kind = plainKind body := by
  have opens : ¬['/', '>'].isPrefixOf ('<' :: (body ++ ['>'])) := by simp [List.isPrefixOf]
  have search : (findWord? ['/', '>'] m.raw).isSome = decide (body.getLast? = some '/') := by
    rw [whole, findWord?, findWordFrom?, if_neg opens, findWordFrom?_slash plain]
  simp only [kind, slash, search, plainKind, Bool.false_eq_true, if_false, decide_eq_true_eq]

/-! ## Brackets -/

theorem isBracket_of_isBlank {c : Char} (blank : isBlank c = true) : isBracket c = false := by
  by_contra bracket
  simp only [isBracket, Bool.or_eq_true, beq_iff_eq, Bool.not_eq_false] at bracket
  rcases bracket with rfl | rfl
  · exact absurd blank (by decide)
  · exact absurd blank (by decide)

theorem isBracket_of_isNameChar {c : Char} (name : isNameChar c = true) : isBracket c = false := by
  by_contra bracket
  simp only [isBracket, Bool.or_eq_true, beq_iff_eq, Bool.not_eq_false] at bracket
  rcases bracket with rfl | rfl
  · exact absurd name (by decide)
  · exact absurd name (by decide)

/-- No part of a tag between its brackets holds one. -/
theorem isBracket_eq_false_of_mem {blanks slash more word others : List Char}
    (blank : ∀ c ∈ blanks, isBlank c = true) (slashes : slash = [] ∨ slash = ['/'])
    (blank' : ∀ c ∈ more, isBlank c = true) (name : ∀ c ∈ word, isNameChar c = true)
    (plain : ∀ c ∈ others, isBracket c = false) :
    ∀ c ∈ blanks ++ (slash ++ (more ++ (word ++ others))), isBracket c = false := by
  simp only [List.mem_append]
  rintro c (c₁ | c₂ | c₃ | c₄ | c₅)
  · exact isBracket_of_isBlank (blank c c₁)
  · rcases slashes with rfl | rfl
    · cases c₂
    · rw [List.mem_singleton.1 c₂]
      decide
  · exact isBracket_of_isBlank (blank' c c₃)
  · exact isBracket_of_isNameChar (name c c₄)
  · exact plain c c₅

/-! ## The parts of a tag -/

/-- What stands between the brackets of a tag, cut as the pattern does. -/
structure Parts where
  blanks : List Char
  slash : List Char
  more : List Char
  word : List Char
  others : List Char

namespace Parts

/-- The text between the brackets. -/
def body (p : Parts) : List Char :=
  p.blanks ++ (p.slash ++ (p.more ++ (p.word ++ p.others)))

/-- The whole tag. -/
def raw (p : Parts) : List Char :=
  '<' :: (p.blanks ++ (p.slash ++ (p.more ++ (p.word ++ (p.others ++ ['>'])))))

/-- What the pattern matches where these parts stand. -/
def toMatch (p : Parts) : Match :=
  ⟨!p.slash.isEmpty, p.word, p.raw⟩

theorem raw_eq (p : Parts) : p.raw = '<' :: (p.body ++ ['>']) := by
  simp [raw, body]

theorem raw_append (p : Parts) (rest : List Char) : p.raw ++ rest =
    '<' :: (p.blanks ++ (p.slash ++ (p.more ++ (p.word ++ (p.others ++ '>' :: rest))))) := by
  simp [raw]

/-- Each part is what its place in the pattern is made for. -/
structure Fit (p : Parts) : Prop where
  blank : ∀ c ∈ p.blanks, isBlank c = true
  slash : p.slash = ['/'] ∨ p.slash = [] ∧ p.more = []
  blank' : ∀ c ∈ p.more, isBlank c = true
  name : IsName p.word p.others
  plain : ∀ c ∈ p.others, isBracket c = false

namespace Fit

variable {p : Parts}

theorem isBracket_eq_false (fit : p.Fit) : ∀ c ∈ p.body, isBracket c = false :=
  isBracket_eq_false_of_mem fit.blank (fit.slash.symm.imp And.left id) fit.blank' fit.name.chars
    fit.plain

/-- Parts that fit make up a tag. -/
theorem isTag (fit : p.Fit) : IsTag p.toMatch.kind (lowered p.word) p.raw := by
  refine ⟨p.body, p.raw_eq, fit.isBracket_eq_false, ?_⟩
  obtain ⟨blanks, slash, more, word, others⟩ := p
  rcases fit.slash with rfl | ⟨rfl, rfl⟩
  · exact Spelled.closing fit.blank fit.blank' fit.name
  · rw [Match.kind_of_not_slash rfl (raw_eq _) fit.isBracket_eq_false]
    exact Spelled.plain fit.blank fit.name

/-- No part before the name takes its first letter. -/
theorem exists_head?_eq (fit : p.Fit) (rest : List Char) :
    ∃ letter, (p.word ++ rest).head? = some letter ∧ letter.isAlpha = true := by
  obtain ⟨letter, chars, same, alpha⟩ := fit.name.exists_cons
  exact ⟨letter, by rw [same]; rfl, alpha⟩

theorem isBlank_of_mem_head? (fit : p.Fit) (rest : List Char) :
    ∀ c ∈ (p.word ++ rest).head?, isBlank c = false := by
  obtain ⟨letter, first, alpha⟩ := fit.exists_head?_eq rest
  rintro c found
  rw [first] at found
  cases found
  exact isBlank_of_isAlpha alpha

theorem span_blanks (fit : p.Fit) (rest : List Char) :
    (p.blanks ++ (p.slash ++ (p.more ++ (p.word ++ rest)))).span isBlank =
      (p.blanks, p.slash ++ (p.more ++ (p.word ++ rest))) := by
  refine span_append fit.blank ?_
  rcases fit.slash with one | ⟨none, empty⟩
  · rw [one]
    rintro c found
    cases found
    exact isBlank_slash
  · rw [none, empty]
    exact fit.isBlank_of_mem_head? rest

theorem splitSlash_eq (fit : p.Fit) (rest : List Char) :
    splitSlash (p.slash ++ (p.more ++ (p.word ++ rest))) =
      (p.slash, p.more ++ (p.word ++ rest)) := by
  rcases fit.slash with one | ⟨none, empty⟩
  · rw [one]
    rfl
  · obtain ⟨letter, first, alpha⟩ := fit.exists_head?_eq rest
    rw [none, empty]
    refine splitSlash_of_ne fun slash => ?_
    rw [List.nil_append, List.nil_append, first] at slash
    cases slash
    exact absurd alpha (by decide)

theorem span_more (fit : p.Fit) (rest : List Char) :
    (p.more ++ (p.word ++ rest)).span isBlank = (p.more, p.word ++ rest) :=
  span_append fit.blank' (fit.isBlank_of_mem_head? rest)

theorem span_word (fit : p.Fit) (rest : List Char) :
    (p.word ++ (p.others ++ '>' :: rest)).span isNameChar = (p.word, p.others ++ '>' :: rest) := by
  refine span_append fit.name.chars ?_
  have ends := fit.name.ends
  cases same : p.others with
  | nil =>
    rintro c found
    cases found
    decide
  | cons d others =>
    rw [same] at ends
    exact ends

theorem span_others (fit : p.Fit) (rest : List Char) :
    (p.others ++ '>' :: rest).span (!isBracket ·) = (p.others, '>' :: rest) := by
  refine span_append (by simpa using fit.plain) ?_
  rintro c found
  cases found
  decide

/-- Each run of the reader takes the part that is made for it. -/
theorem read?_eq (fit : p.Fit) (rest : List Char) : read? (p.raw ++ rest) = some p.toMatch := by
  have starts : p.word.head?.any Char.isAlpha = true := by
    obtain ⟨letter, chars, same, alpha⟩ := fit.name.exists_cons
    rw [same]
    exact alpha
  rw [raw_append]
  simp only [read?, fit.span_blanks, fit.splitSlash_eq, fit.span_more, fit.span_word,
    fit.span_others, starts, List.head?_cons, beq_self_eq_true, Bool.and_self, if_true]
  rfl

end Fit

end Parts

/-- What is read off the head of a text is cut into parts that fit. -/
theorem exists_parts_of_read? {cs : List Char} {m : Match} (read : read? cs = some m) :
    ∃ p : Parts, p.Fit ∧ m = p.toMatch ∧ ∃ rest, cs = p.raw ++ rest := by
  unfold read? at read
  split at read
  next cs =>
    cases cut₁ : cs.span isBlank with | mk blanks cs₁
    cases cut₂ : splitSlash cs₁ with | mk slash cs₂
    cases cut₃ : cs₂.span isBlank with | mk more cs₃
    cases cut₄ : cs₃.span isNameChar with | mk word cs₄
    cases cut₅ : cs₄.span (!isBracket ·) with | mk others cs₅
    simp only [cut₁, cut₂, cut₃, cut₄, cut₅] at read
    obtain ⟨rfl, blank, noBlank⟩ := append_of_span cut₁
    obtain ⟨rfl, slashes⟩ := append_of_splitSlash cut₂
    obtain ⟨rfl, blank', -⟩ := append_of_span cut₃
    obtain ⟨rfl, chars, ends⟩ := append_of_span cut₄
    obtain ⟨rfl, plain, -⟩ := append_of_span cut₅
    split at read
    next both =>
      cases read
      obtain ⟨letter, closes⟩ := Bool.and_eq_true_iff.1 both
      obtain ⟨rest, rfl⟩ := List.head?_eq_some_iff.1 (beq_iff_eq.1 closes)
      have named : IsName word others := by
        refine ⟨by simpa [Option.any_eq_true] using letter, chars, fun c first => ends c ?_⟩
        simp [List.head?_append, Option.mem_def.1 first]
      refine ⟨⟨blanks, slash, more, word, others⟩, ⟨blank, ?_, blank', named, by simpa using plain⟩,
        rfl, rest, (Parts.raw_append ⟨blanks, slash, more, word, others⟩ rest).symm⟩
      -- Without a slash the first run has taken all blanks.
      rcases slashes with rfl | rfl
      · refine Or.inr ⟨rfl, ?_⟩
        cases more with
        | nil => rfl
        | cons c more =>
          have last := blank' c List.mem_cons_self
          rw [noBlank c rfl] at last
          cases last
      · exact Or.inl rfl
    next => cases read
  next => cases read

/-- What is read off the head of a text is a tag with that name, and it does what is read. -/
theorem isTag_of_read? {cs : List Char} {m : Match} (read : read? cs = some m) :
    (∃ rest, cs = m.raw ++ rest) ∧ IsTag m.kind (lowered m.word) m.raw := by
  obtain ⟨p, fit, rfl, whole⟩ := exists_parts_of_read? read
  exact ⟨whole, fit.isTag⟩

/-- A tag consists of parts that fit. -/
theorem IsTag.exists_parts {kind : TagKind} {name : String} {raw : List Char}
    (tag : IsTag kind name raw) :
    ∃ p : Parts, p.Fit ∧ p.raw = raw ∧ p.toMatch.kind = kind ∧ lowered p.word = name := by
  obtain ⟨body, rfl, plain, spelt⟩ := tag
  cases spelt with
  | @closing blanks more word others blank blank' named =>
    have inside : ∀ c ∈ others, isBracket c = false := fun c found => plain c (by simp [found])
    exact ⟨⟨blanks, ['/'], more, word, others⟩, ⟨blank, Or.inl rfl, blank', named, inside⟩,
      Parts.raw_eq _, rfl, rfl⟩
  | @plain blanks word others blank named =>
    have inside : ∀ c ∈ others, isBracket c = false := fun c found => plain c (by simp [found])
    refine ⟨⟨blanks, [], [], word, others⟩, ⟨blank, Or.inr ⟨rfl, rfl⟩, by simp, named, inside⟩,
      Parts.raw_eq _, ?_, rfl⟩
    exact Match.kind_of_not_slash rfl (Parts.raw_eq _) plain

/-- The tag that starts at the head of a text, the head being at `offset`. -/
def startingAt? (offset : Nat) (cs : List Char) : Option Token :=
  (read? cs).map fun m => m.token offset

/-- What starts at the head of a text is the tag that is spelt there, with its extent. -/
theorem startingAt?_eq_some_iff {offset : Nat} {cs : List Char} {t : Token} :
    startingAt? offset cs = some t ↔ ∃ raw rest, cs = raw ++ rest ∧ IsTag t.kind t.name raw ∧
      t.span = ⟨offset, offset + byteSize raw⟩ := by
  constructor
  · intro found
    obtain ⟨m, read, rfl⟩ := Option.map_eq_some_iff.1 found
    obtain ⟨⟨rest, whole⟩, tag⟩ := isTag_of_read? read
    exact ⟨m.raw, rest, whole, tag, rfl⟩
  · rintro ⟨raw, rest, rfl, tag, extent⟩
    obtain ⟨p, fit, rfl, kind, name⟩ := tag.exists_parts
    refine Option.map_eq_some_iff.2 ⟨p.toMatch, fit.read?_eq rest, ?_⟩
    cases t
    simp only [Match.token, Token.mk.injEq]
    exact ⟨kind, name, extent.symm⟩

theorem utf8Size_open : '<'.utf8Size = 1 := by decide

theorem utf8Size_close : '>'.utf8Size = 1 := by decide

theorem byteSize_brackets (body : List Char) :
    byteSize ('<' :: (body ++ ['>'])) = byteSize body + 2 := by
  simp only [byteSize_cons, byteSize_append, byteSize_nil, utf8Size_open, utf8Size_close]
  omega

/-- A text that is read as one tag to its end is that tag. -/
theorem isTag_of_startingAt? {kind : TagKind} {name : String} {raw : List Char}
    (read : startingAt? 0 raw = some ⟨kind, name, ⟨0, byteSize raw⟩⟩) : IsTag kind name raw := by
  obtain ⟨tag, rest, whole, spelt, extent⟩ := startingAt?_eq_some_iff.1 read
  have size : byteSize tag + byteSize rest = byteSize tag := by
    rw [← byteSize_append, ← whole]
    simpa using congrArg Span.stop extent
  have none : rest = [] := byteSize_eq_zero.1 (by omega)
  rw [none, List.append_nil] at whole
  rwa [whole]

end Mhtml.Token

namespace Mhtml

/-! ## What can stand between the brackets -/

/-- Blanks, a slash or none, blanks, a letter, and anything. -/
def HasTagForm (body : List Char) : Prop :=
  ∃ blanks slash more letter rest, body = blanks ++ (slash ++ (more ++ letter :: rest)) ∧
    (∀ c ∈ blanks, isBlank c = true) ∧ (slash = [] ∨ slash = ['/']) ∧
    (∀ c ∈ more, isBlank c = true) ∧ letter.isAlpha = true

namespace Token

theorem Spelled.hasTagForm {kind : TagKind} {name : String} {body : List Char}
    (spelt : Spelled kind name body) : HasTagForm body := by
  cases spelt with
  | @closing blanks more word rest blank blank' named =>
    obtain ⟨letter, chars, rfl, alpha⟩ := named.exists_cons
    exact ⟨blanks, ['/'], more, letter, chars ++ rest, rfl, blank, Or.inr rfl, blank', alpha⟩
  | @plain blanks word rest blank named =>
    obtain ⟨letter, chars, rfl, alpha⟩ := named.exists_cons
    exact ⟨blanks, [], [], letter, chars ++ rest, rfl, blank, Or.inl rfl, by simp, alpha⟩

/-- A letter starts a name. -/
theorem exists_isName {letter : Char} (alpha : letter.isAlpha = true) (rest : List Char) :
    ∃ word others, letter :: rest = word ++ others ∧ IsName word others := by
  cases cut : rest.span isNameChar with | mk chars others
  obtain ⟨rfl, all, ends⟩ := append_of_span cut
  refine ⟨letter :: chars, others, rfl, ⟨letter, rfl, alpha⟩, ?_, ends⟩
  exact List.forall_mem_cons.2 ⟨isNameChar_of_isAlpha alpha, all⟩

/-- Whatever has the form of a tag's body is spelt as one. -/
theorem exists_spelled_iff {body : List Char} :
    (∃ kind name, Spelled kind name body) ↔ HasTagForm body := by
  constructor
  · rintro ⟨kind, name, spelt⟩
    exact spelt.hasTagForm
  · rintro ⟨blanks, slash, more, letter, rest, rfl, blank, slashes, blank', alpha⟩
    obtain ⟨word, others, split, named⟩ := exists_isName alpha rest
    rw [split]
    rcases slashes with rfl | rfl
    · have spelt := Spelled.plain (List.forall_mem_append.2 ⟨blank, blank'⟩) named
      rw [List.append_assoc] at spelt
      exact ⟨_, _, spelt⟩
    · have spelt := Spelled.closing blank blank' named
      exact ⟨_, _, spelt⟩

end Token

end Mhtml
