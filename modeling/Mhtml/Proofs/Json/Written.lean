import Mhtml.Json.Printer

/-!
# JSON as it is written

Values are written by adding to a text. `appends_arr`, `appends_obj` and the lemmas
beside them say what is added, for each kind of value, in terms of what its parts are
written as. From this follows that a value is written on one line:
`IsRegular.feed_not_mem_text`.
-/

namespace Mhtml.Json

/-! ## Strings -/

/-- The characters of a string as they stand between its quotes. -/
def escaped (s : List Char) : List Char :=
  s.flatMap fun c => (escapeChar c).toList

/-- A string as it is written. -/
def quoted (s : String) : List Char :=
  '"' :: (escaped s.toList ++ ['"'])

theorem toList_writeString (out s : String) :
    (writeString out s).toList = out.toList ++ quoted s := by
  have inside : ∀ (cs : List Char) (out : String),
      (cs.foldl (fun out c => out ++ escapeChar c) out).toList = out.toList ++ escaped cs := by
    intro cs
    induction cs with
    | nil => simp [escaped]
    | cons c cs ih => simp [escaped, ih]
  rw [writeString, String.foldl_eq_foldl_toList, String.toList_push, inside, String.toList_push, quoted]
  simp

theorem feed_not_mem_escaped (s : List Char) : '\n' ∉ escaped s := by
  have single : ∀ c, '\n' ∉ (escapeChar c).toList := by
    intro c
    unfold escapeChar
    split
    iterate 7 decide
    next _ _ feed _ _ _ _ =>
      split
      next control =>
        have table : ∀ n < 0x20, '\n' ≠ hexDigit (n / 16) ∧ '\n' ≠ hexDigit (n % 16) := by decide
        have digits := table c.toNat control
        simp [digits]
      next => simpa using fun same : '\n' = c => feed same.symm
  intro among
  obtain ⟨c, -, inside⟩ := List.mem_flatMap.1 among
  exact single c inside

theorem feed_not_mem_quoted (s : String) : '\n' ∉ quoted s := by
  simp [quoted, feed_not_mem_escaped]

/-! ## Numbers -/

theorem isDigit_of_mem_toDigits {n : Nat} {c : Char} (among : c ∈ Nat.toDigits 10 n) :
    c.isDigit = true :=
  Nat.isDigit_of_mem_toDigits (by decide) (by decide) among

theorem exists_toDigits_eq (n : Nat) : ∃ d ds, Nat.toDigits 10 n = d :: ds ∧ d.isDigit = true := by
  obtain ⟨d, ds, front⟩ := List.exists_cons_of_ne_nil (Nat.toDigits_ne_nil (n := n) (b := 10))
  refine ⟨d, ds, front, isDigit_of_mem_toDigits (n := n) ?_⟩
  rw [front]
  exact List.mem_cons_self

/-- An integer is written in digits, with a minus sign if it is negative. -/
theorem toList_repr_cases (n : Int) :
    (∃ m : Nat, n = m ∧ n.repr.toList = Nat.toDigits 10 m) ∨
    ∃ m : Nat, 0 < m ∧ n = -m ∧ n.repr.toList = '-' :: Nat.toDigits 10 m := by
  cases n with
  | ofNat m => exact Or.inl ⟨m, rfl, Nat.toList_repr⟩
  | negSucc m =>
    refine Or.inr ⟨m + 1, Nat.succ_pos m, rfl, ?_⟩
    rw [Int.repr_eq_if]
    simp

theorem feed_not_mem_repr (n : Int) : '\n' ∉ n.repr.toList := by
  have plain : ∀ m, '\n' ∉ Nat.toDigits 10 m := by
    intro m among
    cases isDigit_of_mem_toDigits among
  rcases toList_repr_cases n with ⟨m, -, digits⟩ | ⟨m, -, -, digits⟩ <;> simp [digits, plain]

/-! ## Lists -/

/-- Some texts with commas between them. -/
def listed : List (List Char) → List Char :=
  List.intercalate [',']

theorem listed_singleton (part : List Char) : listed [part] = part :=
  List.intercalate_singleton

theorem listed_cons_cons (part other : List Char) (parts : List (List Char)) :
    listed (part :: other :: parts) = part ++ ',' :: listed (other :: parts) := by
  rw [listed, List.intercalate_cons_cons, List.append_assoc]
  rfl

theorem exists_listed_eq (part : List Char) (parts : List (List Char)) :
    ∃ more, listed (part :: parts) = part ++ more := by
  cases parts with
  | nil => exact ⟨[], by rw [listed_singleton, List.append_nil]⟩
  | cons other parts => exact ⟨_, listed_cons_cons part other parts⟩

theorem feed_not_mem_listed {parts : List (List Char)} (each : ∀ part ∈ parts, '\n' ∉ part) :
    '\n' ∉ listed parts := by
  induction parts with
  | nil => simp [listed]
  | cons part parts ih =>
    obtain ⟨own, others⟩ := List.forall_mem_cons.1 each
    cases parts with
    | nil => rwa [listed_singleton]
    | cons other parts => simp [listed_cons_cons, own, ih others]

/-! ## Values -/

/-- The value can be written and read again: every number in it is an integer, and no object has two
members of one name. -/
inductive IsRegular : Json → Prop
  | null : IsRegular null
  | bool (b : Bool) : IsRegular (bool b)
  | int (n : Int) : IsRegular (int n)
  | str (s : String) : IsRegular (str s)
  | arr {items : List Json} (each : ∀ v ∈ items, IsRegular v) : IsRegular (arr items)
  | obj {members : List (String × Json)} (names : (members.map Prod.fst).Nodup)
    (each : ∀ m ∈ members, IsRegular m.2) : IsRegular (obj members)

/-- The characters of a value as it is written. -/
def text (v : Json) : List Char :=
  v.compact.toList

/-- A member of an object as it is written. -/
def memberText (m : String × Json) : List Char :=
  quoted m.1 ++ ':' :: m.2.text

/-- What has been written does not matter to what is written next. -/
def Appends (v : Json) : Prop :=
  ∀ out, (write out v).toList = out.toList ++ v.text

theorem toList_writeItems {items : List Json} (each : ∀ v ∈ items, v.Appends) (out : String) :
    (writeItems out items).toList = out.toList ++ listed (items.map text) := by
  induction items generalizing out with
  | nil => simp [writeItems, listed]
  | cons v items ih =>
    obtain ⟨own, others⟩ := List.forall_mem_cons.1 each
    cases items with
    | nil => rw [writeItems, own out, List.map_singleton, listed_singleton]
    | cons w items =>
      rw [writeItems, ih others, String.toList_push, own out]
      · simp [listed_cons_cons]
      · simp

theorem toList_writeMembers {members : List (String × Json)} (each : ∀ m ∈ members, m.2.Appends)
    (out : String) :
    (writeMembers out members).toList = out.toList ++ listed (members.map memberText) := by
  induction members generalizing out with
  | nil => simp [writeMembers, listed]
  | cons m members ih =>
    obtain ⟨name, v⟩ := m
    obtain ⟨own, others⟩ := List.forall_mem_cons.1 each
    have first : ∀ out, (write ((writeString out name).push ':') v).toList =
        out.toList ++ memberText (name, v) := by
      intro out
      rw [own, String.toList_push, toList_writeString, memberText]
      simp
    cases members with
    | nil => rw [writeMembers, first out, List.map_singleton, listed_singleton]
    | cons m members =>
      rw [writeMembers, ih others, String.toList_push, first out]
      · simp [listed_cons_cons]
      · simp

/-- A value is written as what it adds to a text. -/
theorem appends_of {v : Json} {cs : List Char} (written : ∀ out, (write out v).toList = out.toList ++ cs) :
    v.Appends ∧ v.text = cs := by
  have own : v.text = cs := written ""
  exact ⟨fun out => by rw [written, own], own⟩

/-- An array is written as its items with commas between them, in brackets. -/
theorem appends_arr {items : List Json} (each : ∀ v ∈ items, v.Appends) :
    (arr items).Appends ∧ (arr items).text = '[' :: (listed (items.map text) ++ [']']) := by
  apply appends_of
  intro out
  rw [write, String.toList_push, toList_writeItems each, String.toList_push]
  simp

/-- An object is written as its members with commas between them, in braces. -/
theorem appends_obj {members : List (String × Json)} (each : ∀ m ∈ members, m.2.Appends) :
    (obj members).Appends ∧
      (obj members).text = '\x7b' :: (listed (members.map memberText) ++ ['\x7d']) := by
  apply appends_of
  intro out
  rw [write, String.toList_push, toList_writeMembers each, String.toList_push]
  simp

theorem appends_str (s : String) : (str s).Appends ∧ (str s).text = quoted s :=
  appends_of fun out => toList_writeString out s

theorem appends_int (n : Int) : (int n).Appends ∧ (int n).text = n.repr.toList :=
  appends_of fun out => by rw [write, String.toList_append, Int.toString_eq_repr]

theorem appends_bool (b : Bool) :
    (bool b).Appends ∧ (bool b).text = (if b then "true" else "false").toList := by
  cases b <;> exact appends_of fun out => by rw [write, String.toList_append]; rfl

theorem appends_null : null.Appends ∧ null.text = "null".toList :=
  appends_of fun out => by rw [write, String.toList_append]

theorem IsRegular.appends {v : Json} (regular : v.IsRegular) : v.Appends := by
  induction regular with
  | null => exact appends_null.1
  | bool b => exact (appends_bool b).1
  | int n => exact (appends_int n).1
  | str s => exact (appends_str s).1
  | arr _ ih => exact (appends_arr ih).1
  | obj _ _ ih => exact (appends_obj ih).1

theorem feed_not_mem_memberText {m : String × Json} (plain : '\n' ∉ m.2.text) : '\n' ∉ memberText m := by
  simp [memberText, feed_not_mem_quoted, plain]

/-- A value is written on one line. -/
theorem IsRegular.feed_not_mem_text {v : Json} (regular : v.IsRegular) : '\n' ∉ v.text := by
  induction regular with
  | null => rw [appends_null.2]; decide
  | bool b => rw [(appends_bool b).2]; cases b <;> decide
  | int n => rw [(appends_int n).2]; exact feed_not_mem_repr n
  | str s => rw [(appends_str s).2]; exact feed_not_mem_quoted s
  | arr each ih =>
    have inside := feed_not_mem_listed (List.forall_mem_map.2 ih)
    rw [(appends_arr fun v among => (each v among).appends).2]
    simp [inside]
  | obj names each ih =>
    have inside := feed_not_mem_listed (List.forall_mem_map.2 fun m among =>
      feed_not_mem_memberText (ih m among))
    rw [(appends_obj fun m among => (each m among).appends).2]
    simp [inside]

end Mhtml.Json
