import Mathlib.Data.Option.Basic
import Mathlib.Data.List.TakeDrop
import Mhtml.Json.Parser
import Mhtml.Proofs.Json.Written

/-!
# Reading what was written

A value that was written is read back, whatever follows it: a string up to its closing
quote, a number up to what ends the value, and items and members one after the other.
The budget of the reader is no bound to this, since each value that is read costs at
least one character more than its parts. `IsRegular.parse?_compact` is the result for
a whole text.
-/

namespace Mhtml.Json

/-! ## Strings -/

/-- A control character has two hexadecimal digits, the first of them zero or one. -/
theorem numberOfDigits?_control :
    ∀ n < 0x20, numberOfDigits? 16 ['0', '0', hexDigit (n / 16), hexDigit (n % 16)] = some n := by
  decide

theorem readCodePoint?_control {c : Char} (control : c.toNat < 0x20) (rest : List Char) :
    readCodePoint? ('0' :: '0' :: hexDigit (c.toNat / 16) :: hexDigit (c.toNat % 16) :: rest) =
      some (c, rest) := by
  have low : ¬ (0xD800 ≤ c.toNat ∧ c.toNat < 0xDC00) := by omega
  have scalar : c.toNat < 0xDC00 ∨ 0xE000 ≤ c.toNat := by omega
  simp [readCodePoint?, readUnit?, numberOfDigits?_control c.toNat control, low, scalar]

/-- What a character is written as is read as the character. -/
theorem readString?_escapeChar (c : Char) (budget : Nat) (read rest : List Char) :
    readString? (budget + 1) read ((escapeChar c).toList ++ rest) =
      readString? budget (c :: read) rest := by
  unfold escapeChar
  split
  iterate 7 rfl
  next quote slash _ _ _ _ _ =>
    split
    next control =>
      have digits : (("\\u00".push (hexDigit (c.toNat / 16))).push (hexDigit (c.toNat % 16))).toList =
          ['\\', 'u', '0', '0', hexDigit (c.toNat / 16), hexDigit (c.toNat % 16)] := by
        simp
      rw [digits]
      simp only [List.cons_append, List.nil_append, readString?, readCodePoint?_control control,
        Option.bind_eq_bind, Option.bind_some]
    next plain =>
      have single : c.toString.toList = [c] := by simp
      rw [single, List.singleton_append, readString?]
      · rw [if_neg fun bad => bad.elim plain slash]
      · exact quote
      · exact fun _ bad _ => slash bad
      · exact fun _ _ bad _ => slash bad

theorem length_escapeChar_pos (c : Char) : 0 < (escapeChar c).toList.length := by
  unfold escapeChar
  split
  iterate 7 decide
  split <;> simp

theorem readString?_escaped (s read rest : List Char) (budget : Nat)
    (enough : (escaped s).length < budget) :
    readString? budget read (escaped s ++ '"' :: rest) =
      some (String.ofList (read.reverse ++ s), rest) := by
  induction s generalizing read budget with
  | nil =>
    obtain ⟨budget, rfl⟩ := Nat.exists_eq_succ_of_ne_zero (Nat.ne_zero_of_lt enough)
    simp [escaped, readString?]
  | cons c s ih =>
    obtain ⟨budget, rfl⟩ := Nat.exists_eq_succ_of_ne_zero (Nat.ne_zero_of_lt enough)
    have own : escaped (c :: s) = (escapeChar c).toList ++ escaped s := rfl
    have some := length_escapeChar_pos c
    rw [own, List.length_append] at enough
    rw [own, List.append_assoc, readString?_escapeChar, ih (c :: read) budget (by omega),
      List.reverse_cons, List.append_assoc, List.singleton_append]

/-- A name is read up to its closing quote. -/
theorem readString?_quoted (s : String) (rest : List Char) :
    readString? ((escaped s.toList ++ '"' :: rest).length + 1) [] (escaped s.toList ++ '"' :: rest) =
      some (s, rest) := by
  rw [readString?_escaped _ _ _ _ (by rw [List.length_append]; omega)]
  simp

/-! ## Numbers -/

/-- What may follow a value: the end of the text, or what ends an item, an array or an object. -/
def Ends (rest : List Char) : Prop :=
  ∀ c ∈ rest.head?, c ∈ [',', ']', '\x7d']

theorem Ends.cases {rest : List Char} (ends : Ends rest) :
    rest = [] ∨ ∃ c after, rest = c :: after ∧ (c = ',' ∨ c = ']' ∨ c = '\x7d') := by
  cases rest with
  | nil => exact Or.inl rfl
  | cons c after =>
    have last := ends c rfl
    simp only [List.mem_cons, List.not_mem_nil, or_false] at last
    exact Or.inr ⟨c, after, rfl, last⟩

/-- No number but zero is written with a zero in front. -/
theorem head?_toDigits_ne_zero {n : Nat} (pos : 0 < n) : (Nat.toDigits 10 n).head? ≠ some '0' := by
  induction n using Nat.base_induction 10 (by decide) with
  | single m less =>
    have table : ∀ m < 10, 0 < m → [m.digitChar].head? ≠ some '0' := by decide
    rw [Nat.toDigits_of_lt_base less]
    exact table m less pos
  | digit m k less more ih =>
    obtain ⟨d, ds, front, -⟩ := exists_toDigits_eq m
    rw [← Nat.toDigits_append_toDigits (by decide) more less, front]
    rw [front] at ih
    exact ih more

theorem spanDigits_append {digits rest : List Char} (every : ∀ c ∈ digits, c.isDigit = true)
    (ends : Ends rest) : spanDigits (digits ++ rest) = (digits, rest) := by
  have own : ∀ c ∈ digits, decide ('0' ≤ c ∧ c ≤ '9') = true := by
    intro c among
    have digit := every c among
    rw [Char.isDigit, Bool.and_eq_true, decide_eq_true_eq, decide_eq_true_eq] at digit
    exact decide_eq_true digit
  have stops : rest.takeWhile (fun c => decide ('0' ≤ c ∧ c ≤ '9')) = [] ∧
      rest.dropWhile (fun c => decide ('0' ≤ c ∧ c ≤ '9')) = rest := by
    rcases ends.cases with rfl | ⟨c, after, rfl, rfl | rfl | rfl⟩ <;> exact ⟨rfl, rfl⟩
  rw [spanDigits, List.span_eq_takeWhile_dropWhile, List.takeWhile_append_of_pos own,
    List.dropWhile_append_of_pos own, stops.1, stops.2, List.append_nil]

theorem spanDigits_toDigits (n : Nat) {rest : List Char} (ends : Ends rest) :
    spanDigits (Nat.toDigits 10 n ++ rest) = (Nat.toDigits 10 n, rest) :=
  spanDigits_append (fun _ => isDigit_of_mem_toDigits) ends

/-- The digits of a number have the form that is asked for. -/
theorem toDigits_canonical (n : Nat) : (!(Nat.toDigits 10 n).isEmpty &&
    ((Nat.toDigits 10 n).length == 1 || (Nat.toDigits 10 n).head? != some '0')) = true := by
  rcases Nat.eq_zero_or_pos n with rfl | pos
  · rfl
  · simp [head?_toDigits_ne_zero pos]

theorem foldl_toDigits (n : Nat) :
    (Nat.toDigits 10 n).foldl (fun n d => 10 * n + (d.toNat - '0'.toNat)) 0 = n :=
  Nat.ofDigitChars_ten_toDigits

theorem readNumber?_toDigits (n : Nat) {rest : List Char} (ends : Ends rest) :
    readNumber? (Nat.toDigits 10 n ++ rest) = some (.int n, rest) := by
  have unsigned : ∀ after, Nat.toDigits 10 n ++ rest ≠ '-' :: after := by
    intro after same
    obtain ⟨d, ds, front, digit⟩ := exists_toDigits_eq n
    rw [front, List.cons_append] at same
    rw [(List.cons.inj same).1] at digit
    cases digit
  rw [readNumber?]
  · simp only [spanDigits_toDigits n ends, toDigits_canonical, foldl_toDigits]
    -- What ends a value starts neither a fraction nor an exponent.
    rcases ends.cases with rfl | ⟨c, after, rfl, rfl | rfl | rfl⟩ <;> simp
  · exact unsigned

theorem readNumber?_minus {n : Nat} (pos : 0 < n) {rest : List Char} (ends : Ends rest) :
    readNumber? ('-' :: (Nat.toDigits 10 n ++ rest)) = some (.int (-n), rest) := by
  simp only [readNumber?, spanDigits_toDigits n ends, toDigits_canonical, foldl_toDigits]
  rcases ends.cases with rfl | ⟨c, after, rfl, rfl | rfl | rfl⟩ <;> simp [Nat.ne_of_gt pos]

theorem readNumber?_repr (n : Int) {rest : List Char} (ends : Ends rest) :
    readNumber? (n.repr.toList ++ rest) = some (.int n, rest) := by
  rcases toList_repr_cases n with ⟨m, rfl, digits⟩ | ⟨m, pos, rfl, digits⟩
  · rw [digits]
    exact readNumber?_toDigits m ends
  · rw [digits]
    exact readNumber?_minus pos ends

/-! ## Items and members -/

/-- The characters that a number may start with. -/
def numberStarters : List Char :=
  ['-', '0', '1', '2', '3', '4', '5', '6', '7', '8', '9']

/-- The characters that a value may start with. -/
def starters : List Char :=
  ['"', '[', '\x7b', 'n', 't', 'f'] ++ numberStarters

/-- A value is read where it was written, whatever follows, if the budget covers its text. -/
structure Reads (v : Json) : Prop where
  starts : ∃ c ∈ starters, ∃ cs, v.text = c :: cs
  reads : ∀ budget rest, v.text.length < budget → Ends rest →
    readValue? budget (v.text ++ rest) = some (v, rest)

theorem readItems?_listed {v : Json} {items : List Json} (own : v.Reads) (others : ∀ v ∈ items, v.Reads)
    (read : List Json) (rest : List Char) (budget : Nat)
    (enough : (listed ((v :: items).map text)).length + 1 < budget) :
    readItems? budget read (listed ((v :: items).map text) ++ ']' :: rest) =
      some (.arr (read.reverse ++ v :: items), rest) := by
  induction items generalizing v read budget with
  | nil =>
    obtain ⟨budget, rfl⟩ := Nat.exists_eq_succ_of_ne_zero (Nat.ne_zero_of_lt enough)
    have ends : Ends (']' :: rest) := by simp [Ends]
    rw [List.map_singleton, listed_singleton] at enough ⊢
    rw [readItems?, own.reads budget _ (by omega) ends]
    simp [skipBlank]
  | cons w items ih =>
    obtain ⟨budget, rfl⟩ := Nat.exists_eq_succ_of_ne_zero (Nat.ne_zero_of_lt enough)
    have first : listed ((v :: w :: items).map text) = v.text ++ ',' :: listed ((w :: items).map text) :=
      listed_cons_cons ..
    have ends : Ends (',' :: (listed ((w :: items).map text) ++ ']' :: rest)) := by simp [Ends]
    rw [first, List.length_append, List.length_cons] at enough
    rw [first, List.append_assoc, List.cons_append, readItems?, own.reads budget _ (by omega) ends]
    obtain ⟨next, later⟩ := List.forall_mem_cons.1 others
    have rest := ih next later (v :: read) budget (by omega)
    simpa [skipBlank] using rest

/-- A member of a new name is added to those read before. -/
theorem put_of_nodup {m : String × Json} {read members : List (String × Json)}
    (names : ((read.reverse ++ m :: members).map Prod.fst).Nodup) : put m.1 m.2 read = m :: read := by
  rw [List.map_append, List.map_reverse, List.nodup_append] at names
  rw [put, List.filter_eq_self.2]
  intro other among
  rw [bne_iff_ne]
  exact names.2.2 other.1 (List.mem_reverse.2 (List.mem_map_of_mem among)) m.1 List.mem_cons_self

/-- How an object is read on after a member; `read` holds the members, the latest first. -/
def readOn? (budget : Nat) (read : List (String × Json)) (rest : List Char) :
    Option (Json × List Char) :=
  match skipBlank rest with
  | ',' :: rest => readMembers? budget read rest
  | '\x7d' :: rest => some (.obj read.reverse, rest)
  | _ => none

/-- One member is read together with its name. -/
theorem readMembers?_member {name : String} {v : Json} (own : v.Reads) (read : List (String × Json))
    {rest : List Char} (ends : Ends rest) {budget : Nat} (enough : v.text.length < budget) :
    readMembers? (budget + 1) read (memberText (name, v) ++ rest) =
      readOn? budget (put name v read) rest := by
  have parts : memberText (name, v) ++ rest =
      '"' :: (escaped name.toList ++ '"' :: (':' :: (v.text ++ rest))) := by
    simp [memberText, quoted]
  have quote : skipBlank ('"' :: (escaped name.toList ++ '"' :: (':' :: (v.text ++ rest)))) =
      '"' :: (escaped name.toList ++ '"' :: (':' :: (v.text ++ rest))) := rfl
  have colon : skipBlank (':' :: (v.text ++ rest)) = ':' :: (v.text ++ rest) := rfl
  rw [parts, readMembers?, quote]
  simp only [readString?_quoted, colon, own.reads budget rest enough ends, Option.bind_eq_bind,
    Option.bind_some]
  rfl

theorem length_text_lt_memberText (name : String) (v : Json) :
    v.text.length < (memberText (name, v)).length := by
  simp only [memberText, quoted, List.length_append, List.length_cons]
  omega

theorem readMembers?_listed {m : String × Json} {members : List (String × Json)} (own : m.2.Reads)
    (others : ∀ m ∈ members, m.2.Reads) (read : List (String × Json)) (rest : List Char) (budget : Nat)
    (names : ((read.reverse ++ m :: members).map Prod.fst).Nodup)
    (enough : (listed ((m :: members).map memberText)).length + 1 < budget) :
    readMembers? budget read (listed ((m :: members).map memberText) ++ '\x7d' :: rest) =
      some (.obj (read.reverse ++ m :: members), rest) := by
  induction members generalizing m read budget with
  | nil =>
    obtain ⟨name, v⟩ := m
    obtain ⟨budget, rfl⟩ := Nat.exists_eq_succ_of_ne_zero (Nat.ne_zero_of_lt enough)
    have ends : Ends ('\x7d' :: rest) := by simp [Ends]
    have short := length_text_lt_memberText name v
    rw [List.map_singleton, listed_singleton] at enough ⊢
    rw [readMembers?_member (v := v) own read ends (by omega), put_of_nodup names]
    simp [readOn?, skipBlank]
  | cons w members ih =>
    obtain ⟨name, v⟩ := m
    obtain ⟨budget, rfl⟩ := Nat.exists_eq_succ_of_ne_zero (Nat.ne_zero_of_lt enough)
    have first : listed (((name, v) :: w :: members).map memberText) =
        memberText (name, v) ++ ',' :: listed ((w :: members).map memberText) := listed_cons_cons ..
    have ends : Ends (',' :: (listed ((w :: members).map memberText) ++ '\x7d' :: rest)) := by
      simp [Ends]
    have short := length_text_lt_memberText name v
    obtain ⟨next, later⟩ := List.forall_mem_cons.1 others
    rw [first, List.length_append, List.length_cons] at enough
    have after := ih next later ((name, v) :: read) budget (by simpa using names) (by omega)
    rw [first, List.append_assoc, List.cons_append,
      readMembers?_member (v := v) own read ends (by omega), put_of_nodup names]
    simpa [readOn?, skipBlank] using after

/-! ## Values -/

/-- A value does not start with a blank, nor with what ends an array. -/
theorem skipBlank_of_starts {c : Char} (starts : c ∈ starters) (cs : List Char) :
    skipBlank (c :: cs) = c :: cs ∧ c ≠ ']' := by
  have table : (starters.all fun c =>
      !(c == ' ' || c == '\t' || c == '\n' || c == '\r') && c != ']') = true := by
    decide
  have own := List.all_eq_true.1 table c starts
  rw [Bool.and_eq_true, Bool.not_eq_true', bne_iff_ne] at own
  refine ⟨?_, own.2⟩
  rw [skipBlank, List.dropWhile_cons, own.1]
  rfl

section

variable (budget : Nat) (cs : List Char)

theorem readValue?_quote : readValue? (budget + 1) ('"' :: cs) =
    (readString? (cs.length + 1) [] cs).map fun (s, rest) => (.str s, rest) := rfl

theorem readValue?_items {c : Char} (starts : c ∈ starters) :
    readValue? (budget + 1) ('[' :: c :: cs) = readItems? budget [] (c :: cs) := by
  obtain ⟨skipped, other⟩ := skipBlank_of_starts starts cs
  have bracket : skipBlank ('[' :: c :: cs) = '[' :: c :: cs := rfl
  simp [readValue?, bracket, skipped, other]

theorem readValue?_members :
    readValue? (budget + 1) ('\x7b' :: '"' :: cs) = readMembers? budget [] ('"' :: cs) := rfl

theorem readValue?_number {c : Char} (number : c ∈ numberStarters) :
    readValue? (budget + 1) (c :: cs) = readNumber? (c :: cs) := by
  simp only [numberStarters, List.mem_cons, List.not_mem_nil, or_false] at number
  rcases number with rfl | rfl | rfl | rfl | rfl | rfl | rfl | rfl | rfl | rfl | rfl <;> rfl

end

theorem reads_null : null.Reads := by
  refine ⟨⟨'n', by decide, _, appends_null.2⟩, fun budget rest enough _ => ?_⟩
  obtain ⟨budget, rfl⟩ := Nat.exists_eq_succ_of_ne_zero (Nat.ne_zero_of_lt enough)
  rw [appends_null.2]
  rfl

theorem reads_bool (b : Bool) : (bool b).Reads := by
  cases b with
  | false =>
    refine ⟨⟨'f', by decide, _, (appends_bool false).2⟩, fun budget rest enough _ => ?_⟩
    obtain ⟨budget, rfl⟩ := Nat.exists_eq_succ_of_ne_zero (Nat.ne_zero_of_lt enough)
    rw [(appends_bool false).2]
    rfl
  | true =>
    refine ⟨⟨'t', by decide, _, (appends_bool true).2⟩, fun budget rest enough _ => ?_⟩
    obtain ⟨budget, rfl⟩ := Nat.exists_eq_succ_of_ne_zero (Nat.ne_zero_of_lt enough)
    rw [(appends_bool true).2]
    rfl

theorem reads_str (s : String) : (str s).Reads := by
  refine ⟨⟨'"', by decide, _, (appends_str s).2⟩, fun budget rest enough _ => ?_⟩
  obtain ⟨budget, rfl⟩ := Nat.exists_eq_succ_of_ne_zero (Nat.ne_zero_of_lt enough)
  have parts : (str s).text ++ rest = '"' :: (escaped s.toList ++ '"' :: rest) := by
    rw [(appends_str s).2]
    simp [quoted]
  rw [parts, readValue?_quote, readString?_quoted, Option.map_some]

theorem mem_numberStarters_of_isDigit {c : Char} (digit : c.isDigit = true) : c ∈ numberStarters := by
  have table : ∀ n < 58, 48 ≤ n → Char.ofNat n ∈ numberStarters := by decide
  rw [Char.isDigit, Bool.and_eq_true, decide_eq_true_eq, decide_eq_true_eq] at digit
  rw [← Char.ofNat_toNat c]
  exact table c.toNat (Nat.lt_succ_of_le digit.2) digit.1

/-- An integer starts with a digit or with a minus sign. -/
theorem exists_repr_eq (n : Int) : ∃ c ∈ numberStarters, ∃ cs, n.repr.toList = c :: cs := by
  rcases toList_repr_cases n with ⟨m, -, digits⟩ | ⟨m, -, -, digits⟩
  · obtain ⟨d, ds, front, digit⟩ := exists_toDigits_eq m
    exact ⟨d, mem_numberStarters_of_isDigit digit, ds, digits.trans front⟩
  · exact ⟨'-', by decide, _, digits⟩

theorem reads_int (n : Int) : (int n).Reads := by
  obtain ⟨c, number, cs, front⟩ := exists_repr_eq n
  have own := (appends_int n).2
  refine ⟨⟨c, List.mem_append_right _ number, cs, own.trans front⟩, fun budget rest enough ends => ?_⟩
  obtain ⟨budget, rfl⟩ := Nat.exists_eq_succ_of_ne_zero (Nat.ne_zero_of_lt enough)
  have reads := readNumber?_repr n ends
  rw [front, List.cons_append] at reads
  rw [own, front, List.cons_append, readValue?_number _ _ number, reads]

theorem reads_arr {items : List Json} (each : ∀ v ∈ items, v.Appends ∧ v.Reads) : (arr items).Reads := by
  have own := (appends_arr fun v among => (each v among).1).2
  refine ⟨⟨'[', by decide, _, own⟩, fun budget rest enough _ => ?_⟩
  obtain ⟨budget, rfl⟩ := Nat.exists_eq_succ_of_ne_zero (Nat.ne_zero_of_lt enough)
  rw [own] at enough ⊢
  cases items with
  | nil => rfl
  | cons v items =>
    obtain ⟨⟨-, first⟩, others⟩ := List.forall_mem_cons.1 each
    have reads := readItems?_listed first (fun v among => (others v among).2) [] rest budget
      (by simp only [List.length_cons, List.length_append] at enough; omega)
    obtain ⟨c, starts, cs, front⟩ := first.starts
    obtain ⟨more, parts⟩ := exists_listed_eq v.text (items.map text)
    rw [List.map_cons, parts, front] at reads
    rw [List.map_cons, parts, front]
    simp only [List.cons_append, List.append_assoc, List.nil_append] at reads ⊢
    rw [readValue?_items _ _ starts, reads, List.reverse_nil, List.nil_append]

theorem reads_obj {members : List (String × Json)} (names : (members.map Prod.fst).Nodup)
    (each : ∀ m ∈ members, m.2.Appends ∧ m.2.Reads) : (obj members).Reads := by
  have own := (appends_obj fun m among => (each m among).1).2
  refine ⟨⟨'\x7b', by decide, _, own⟩, fun budget rest enough _ => ?_⟩
  obtain ⟨budget, rfl⟩ := Nat.exists_eq_succ_of_ne_zero (Nat.ne_zero_of_lt enough)
  rw [own] at enough ⊢
  cases members with
  | nil => rfl
  | cons m members =>
    obtain ⟨⟨-, first⟩, others⟩ := List.forall_mem_cons.1 each
    have reads := readMembers?_listed first (fun m among => (others m among).2) [] rest budget names
      (by simp only [List.length_cons, List.length_append] at enough; omega)
    obtain ⟨more, parts⟩ := exists_listed_eq (memberText m) (members.map memberText)
    rw [List.map_cons, parts, memberText, quoted] at reads
    rw [List.map_cons, parts, memberText, quoted]
    simp only [List.cons_append, List.append_assoc, List.nil_append] at reads ⊢
    rw [readValue?_members, reads, List.reverse_nil, List.nil_append]

theorem IsRegular.reads {v : Json} (regular : v.IsRegular) : v.Reads := by
  induction regular with
  | null => exact reads_null
  | bool b => exact reads_bool b
  | int n => exact reads_int n
  | str s => exact reads_str s
  | arr each ih => exact reads_arr fun v among => ⟨(each v among).appends, ih v among⟩
  | obj names each ih => exact reads_obj names fun m among => ⟨(each m among).appends, ih m among⟩

/-- **What is written is read again.** -/
theorem IsRegular.parse?_compact {v : Json} (regular : v.IsRegular) : parse? v.compact = some v := by
  have reads := regular.reads.reads (v.text.length + 1) [] (Nat.lt_succ_self _) (by simp [Ends])
  rw [List.append_nil] at reads
  have whole : readValue? (v.compact.toList.length + 1) v.compact.toList = some (v, []) := reads
  rw [parse?, whole]
  rfl

end Mhtml.Json
