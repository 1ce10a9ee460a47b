import Mhtml.Document
import Mhtml.Proofs.Token.Scan

/-!
# Letter case and trees

In lower case a text has its tags where they were. A letter has as many bytes in
either case, no letter is a blank, a slash or a bracket, and a name is read in lower
case anyway. So each reader takes the same decisions about a text and about the text
in lower case, and the two have one and the same tree: `parse_lowercase`.
-/

namespace Mhtml

/-! ## Characters -/

/-- What holds of every character and itself, and of the 26 capitals and their lower case, holds of
every character and its lower case. -/
theorem toLower_cases {P : Char → Char → Prop} (same : ∀ c, P c c)
    (letter : ∀ n < 26, P (.ofNat (n + 65)) (Char.toLower (.ofNat (n + 65)))) (c : Char) :
    P c c.toLower := by
  by_cases capital : c.val ≥ 'A'.val ∧ c.val ≤ 'Z'.val
  · have low : 65 ≤ c.toNat := UInt32.le_iff_toNat_le.1 capital.1
    have high : c.toNat ≤ 90 := UInt32.le_iff_toNat_le.1 capital.2
    have own := letter (c.toNat - 65) (by omega)
    rwa [Nat.sub_add_cancel low, Char.ofNat_toNat] at own
  · have own : c.toLower = c := dif_neg capital
    rw [own]
    exact same c

theorem utf8Size_toLower (c : Char) : c.toLower.utf8Size = c.utf8Size :=
  toLower_cases (P := fun c d => d.utf8Size = c.utf8Size) (fun _ => rfl) (by decide) c

theorem unitSize_toLower (c : Char) : unitSize c.toLower = unitSize c :=
  toLower_cases (P := fun c d => unitSize d = unitSize c) (fun _ => rfl) (by decide) c

theorem isBlank_toLower (c : Char) : isBlank c.toLower = isBlank c :=
  toLower_cases (P := fun c d => isBlank d = isBlank c) (fun _ => rfl) (by decide) c

theorem isAlpha_toLower (c : Char) : c.toLower.isAlpha = c.isAlpha :=
  toLower_cases (P := fun c d => d.isAlpha = c.isAlpha) (fun _ => rfl) (by decide) c

theorem isNameChar_toLower (c : Char) : Token.isNameChar c.toLower = Token.isNameChar c :=
  toLower_cases (P := fun c d => Token.isNameChar d = Token.isNameChar c) (fun _ => rfl) (by decide) c

theorem isBracket_toLower (c : Char) : Token.isBracket c.toLower = Token.isBracket c :=
  toLower_cases (P := fun c d => Token.isBracket d = Token.isBracket c) (fun _ => rfl) (by decide) c

theorem toLower_toLower (c : Char) : c.toLower.toLower = c.toLower := by
  by_cases same : c.toLower = c
  · rw [same, same]
  · exact toLower_cases (P := fun c d => d ≠ c → d.toLower = d) (fun c other => absurd rfl other)
      (by decide) c same

/-- Only letters become letters. -/
theorem toLower_eq_iff {d : Char} (plain : d.isAlpha = false) (c : Char) : c.toLower = d ↔ c = d := by
  have table : ∀ n < 26, (Char.ofNat (n + 65)).isAlpha = true ∧
      (Char.ofNat (n + 65)).toLower.isAlpha = true := by
    decide
  refine toLower_cases (P := fun c l => l = d ↔ c = d) (fun _ => Iff.rfl) (fun n low => ?_) c
  obtain ⟨letter, letter'⟩ := table n low
  constructor
  · rintro rfl
    rw [letter'] at plain
    cases plain
  · rintro rfl
    rw [letter] at plain
    cases plain

theorem map_toLower_eq_some_iff {d : Char} (plain : d.isAlpha = false) {c? : Option Char} :
    c?.map Char.toLower = some d ↔ c? = some d := by
  cases c? with
  | none => simp
  | some c => rw [Option.map_some, Option.some.injEq, Option.some.injEq, toLower_eq_iff plain]

/-- The text in lower case. -/
def lowercase (text : List Char) : List Char :=
  text.map Char.toLower

theorem byteSize_lowercase (text : List Char) : byteSize (lowercase text) = byteSize text := by
  induction text with
  | nil => rfl
  | cons c text ih =>
    show byteSize (c.toLower :: lowercase text) = _
    rw [byteSize_cons, byteSize_cons, utf8Size_toLower, ih]

theorem lowercase_lowercase (text : List Char) : lowercase (lowercase text) = lowercase text := by
  rw [lowercase, lowercase, List.map_map]
  exact List.map_congr_left fun c _ => toLower_toLower c

/-- A test that does not tell cases apart cuts a text in lower case where it cuts the text. -/
theorem span_lowercase {p : Char → Bool} (blind : ∀ c, p c.toLower = p c) {text run rest : List Char}
    (cut : text.span p = (run, rest)) :
    (lowercase text).span p = (lowercase run, lowercase rest) := by
  have same : p ∘ Char.toLower = p := funext blind
  rw [List.span_eq_takeWhile_dropWhile] at cut ⊢
  cases cut
  rw [lowercase, List.takeWhile_map, List.dropWhile_map, same, lowercase, lowercase]

/-! ## Tags -/

namespace Token

/-- A match in lower case. -/
def Match.lowercase (m : Match) : Match :=
  { m with word := Mhtml.lowercase m.word, raw := Mhtml.lowercase m.raw }

theorem isPrefixOf_lowercase {word : List Char} (plain : ∀ d ∈ word, d.isAlpha = false)
    (text : List Char) : word.isPrefixOf (lowercase text) = word.isPrefixOf text := by
  induction word generalizing text with
  | nil => rfl
  | cons d word ih =>
    cases text with
    | nil => rfl
    | cons c text =>
      have first : (d == c.toLower) = (d == c) := by
        rw [Bool.eq_iff_iff, beq_iff_eq, beq_iff_eq, eq_comm,
          toLower_eq_iff (plain d List.mem_cons_self), eq_comm]
      show (d == c.toLower && word.isPrefixOf (lowercase text)) = _
      rw [first, ih fun e found => plain e (List.mem_cons_of_mem d found)]
      rfl

theorem findWordFrom?_lowercase {word : List Char} (plain : ∀ d ∈ word, d.isAlpha = false)
    (offset : Nat) (text : List Char) :
    findWordFrom? word offset (lowercase text) = findWordFrom? word offset text := by
  induction text generalizing offset with
  | nil => rfl
  | cons c text ih =>
    have here := isPrefixOf_lowercase plain (c :: text)
    show (if word.isPrefixOf (lowercase (c :: text)) then some offset
      else findWordFrom? word (offset + c.toLower.utf8Size) (lowercase text)) = _
    rw [here, utf8Size_toLower, ih, findWordFrom?]

theorem splitSlash_lowercase {text slash rest : List Char} (cut : splitSlash text = (slash, rest)) :
    splitSlash (lowercase text) = (lowercase slash, lowercase rest) := by
  by_cases starts : text.head? = some '/'
  · obtain ⟨tail, rfl⟩ := List.head?_eq_some_iff.1 starts
    cases cut
    rfl
  · have plain : (lowercase text).head? ≠ some '/' := by
      rw [lowercase, List.head?_map]
      exact mt (map_toLower_eq_some_iff (by decide)).1 starts
    rw [splitSlash_of_ne starts] at cut
    cases cut
    exact splitSlash_of_ne plain

/-- Each part of the pattern takes as much of a text in lower case as of the text. -/
theorem read?_lowercase (text : List Char) :
    read? (lowercase text) = (read? text).map Match.lowercase := by
  cases text with
  | nil => rfl
  | cons c cs =>
    by_cases opens : c = '<'
    · subst opens
      show read? ('<' :: lowercase cs) = _
      cases cut₁ : cs.span isBlank with | mk blanks cs₁
      cases cut₂ : splitSlash cs₁ with | mk slash cs₂
      cases cut₃ : cs₂.span isBlank with | mk more cs₃
      cases cut₄ : cs₃.span isNameChar with | mk word cs₄
      cases cut₅ : cs₄.span (!isBracket ·) with | mk others cs₅
      have blind : ∀ c, (!isBracket (Char.toLower c)) = !isBracket c := by
        intro c
        rw [isBracket_toLower]
      have letter : (lowercase word).head?.any Char.isAlpha = word.head?.any Char.isAlpha := by
        rw [lowercase, List.head?_map, Option.any_map]
        exact congrArg (word.head?.any ·) (funext isAlpha_toLower)
      have closes : ((lowercase cs₅).head? == some '>') = (cs₅.head? == some '>') := by
        rw [Bool.eq_iff_iff, beq_iff_eq, beq_iff_eq, lowercase, List.head?_map,
          map_toLower_eq_some_iff (by decide)]
      have empty : (lowercase slash).isEmpty = slash.isEmpty := List.isEmpty_map
      simp only [read?, cut₁, cut₂, cut₃, cut₄, cut₅, span_lowercase isBlank_toLower cut₁,
        splitSlash_lowercase cut₂, span_lowercase isBlank_toLower cut₃,
        span_lowercase isNameChar_toLower cut₄, span_lowercase blind cut₅, letter, closes, empty]
      split
      · simp [Match.lowercase, lowercase]
      · rfl
    · have other : c.toLower ≠ '<' := mt (toLower_eq_iff (by decide) c).1 opens
      rw [read?_cons_of_ne opens]
      exact read?_cons_of_ne other (lowercase cs)

theorem Match.token_lowercase (m : Match) (offset : Nat) :
    m.lowercase.token offset = m.token offset := by
  have slash : findWord? ['/', '>'] m.lowercase.raw = findWord? ['/', '>'] m.raw :=
    findWordFrom?_lowercase (by simp) 0 m.raw
  have name : m.lowercase.word.map Char.toLower = m.word.map Char.toLower :=
    lowercase_lowercase m.word
  have size : byteSize m.lowercase.raw = byteSize m.raw := byteSize_lowercase m.raw
  simp only [token, kind, slash, name, size]
  rfl

theorem startingAt?_lowercase (offset : Nat) (cs : List Char) :
    startingAt? offset (lowercase cs) = startingAt? offset cs := by
  rw [startingAt?, startingAt?, read?_lowercase, Option.map_map]
  exact Option.map_congr fun m _ => m.token_lowercase offset

theorem scan_lowercase (offset : Nat) (cs : List Char) :
    scan offset (lowercase cs) = scan offset cs := by
  induction cs generalizing offset with
  | nil => rfl
  | cons c cs ih =>
    have first := startingAt?_lowercase offset (c :: cs)
    show (startingAt? offset (lowercase (c :: cs))).toList ++
      scan (offset + c.toLower.utf8Size) (lowercase cs) = _
    rw [first, utf8Size_toLower, ih, scan]

end Token

/-- A text in lower case has the tags that it had. -/
theorem tokenize_lowercase (text : List Char) : tokenize (lowercase text) = tokenize text := by
  rw [Token.tokenize_eq_scan, Token.tokenize_eq_scan, Token.scan_lowercase]

/-- A text in lower case has the tree that it had. -/
theorem parse_lowercase (text : List Char) : parse (lowercase text) = parse text := by
  rw [parse, parse, tokenize_lowercase, byteSize_lowercase]

end Mhtml
