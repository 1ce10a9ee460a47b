import Mhtml.Json.Shape

/-!
# Records

What a record says, read off the value itself: an object has its members under
their names, and an array that is as long as the list of names has them in that
order. Layouts and their shapes come down to this where no member has a default.
-/

namespace Mhtml

namespace Json

variable {names : List String} {name : String} {P Q : Json → Prop} {v : Json}

/-- What a record with these names says under one of them. -/
def field? (names : List String) (name : String) : Json → Option Json
  | obj members => members.lookup name
  | arr items => if items.length = names.length then (names.zip items).lookup name else none
  | _ => none

/-- The value has a member, and that member has a property. -/
def Has (names : List String) (name : String) (P : Json → Prop) (v : Json) : Prop :=
  ∃ w, v.field? names name = some w ∧ P w

/-- If the value has a member, it is null or has a property. -/
def MayHave (names : List String) (name : String) (P : Json → Prop) (v : Json) : Prop :=
  ∀ w, v.field? names name = some w → w = null ∨ P w

theorem Has.imp (has : v.Has names name P) (imp : ∀ w, P w → Q w) : v.Has names name Q := by
  obtain ⟨w, found, holds⟩ := has
  exact ⟨w, found, imp w holds⟩

end Json

/-! ## Shapes -/

theorem Shape.nullable_eq_true_iff {s : Shape} {v : Json} :
    s.nullable v = true ↔ v = .null ∨ s v = true := by
  cases v <;> simp [nullable]

namespace Member

/-- Whether what a record says under the name of a member will do for it. -/
def takes (m : Member) : Option Json → Bool
  | some v => m.shape v
  | none => !m.isRequired

theorem accepts_eq (m : Member) (values : List (String × Json)) :
    m.accepts values = m.takes (values.lookup m.name) := by
  unfold accepts takes
  cases values.lookup m.name <;> rfl

theorem takes_required_iff {name : String} {s : Shape} {v? : Option Json} :
    (required name s).takes v? = true ↔ ∃ v, v? = some v ∧ s v = true := by
  cases v? <;> simp [required, takes]

theorem takes_optional_iff {name : String} {s : Shape} {v? : Option Json} :
    (optional name s).takes v? = true ↔ ∀ v, v? = some v → v = .null ∨ s v = true := by
  cases v? <;> simp [optional, takes, Shape.nullable_eq_true_iff]

end Member

/-! ## Layouts -/

namespace Layout

/-- The record may be written as an array, which has to hold all its members; one of them has to
be there. -/
structure IsPlain (r : Layout) : Prop where
  positional : r.isPositional = true
  complete : r.members.all (!·.hasDefault) = true
  required : r.members.any (·.isRequired) = true

/-- The names of the members in their order. -/
def names (r : Layout) : List String :=
  r.members.map Member.name

variable {r : Layout}

theorem IsPlain.fits_iff (plain : r.IsPlain) (length : Nat) :
    r.fits length = true ↔ length = r.names.length := by
  simp only [fits, plain.positional, Bool.true_and, Bool.and_eq_true, decide_eq_true_eq,
    List.all_eq_true, names, List.length_map]
  constructor
  · rintro ⟨le, defaults⟩
    refine Nat.le_antisymm le (Nat.not_lt.1 fun short => ?_)
    have first : r.members[length] ∈ r.members.drop length := by
      rw [List.drop_eq_getElem_cons short]
      exact List.mem_cons_self
    have due := List.all_eq_true.1 plain.complete _ (List.getElem_mem short)
    rw [defaults _ first] at due
    cases due
  · rintro rfl
    simp

theorem IsPlain.get?_eq (plain : r.IsPlain) (name : String) (v : Json) :
    r.get? name v = v.field? r.names name := by
  unfold get? values? Json.field?
  cases v with
  | obj values => rfl
  | arr items =>
    dsimp only
    by_cases all : items.length = r.names.length
    · rw [if_pos all, if_pos ((plain.fits_iff _).2 all)]
      rfl
    · rw [if_neg all, if_neg fun fits => all ((plain.fits_iff _).1 fits)]
      rfl
  | null | bool | int | decimal | str => rfl

/-- What is read from a member is told by the member. -/
theorem IsPlain.bind_get?_iff (plain : r.IsPlain) {α : Type} {read? : Json → Option α} {x : α}
    {P : Json → Prop} (reads : ∀ w, read? w = some x ↔ P w) {name : String} {v : Json} :
    (r.get? name v).bind read? = some x ↔ v.Has r.names name P := by
  simp only [plain.get?_eq, Option.bind_eq_some_iff, reads, Json.Has]

/-- A value has the shape of a record just if what it says under each name will do. -/
theorem IsPlain.shape_iff (plain : r.IsPlain) (v : Json) :
    r.shape v = true ↔ ∀ m ∈ r.members, m.takes (v.field? r.names m.name) = true := by
  simp only [← plain.get?_eq, get?, shape, Option.any_eq_true, List.all_eq_true, Member.accepts_eq]
  constructor
  · rintro ⟨values, read, all⟩ m among
    rw [read]
    exact all m among
  · intro all
    obtain ⟨m, among, due⟩ := List.any_eq_true.1 plain.required
    cases read : r.values? v with
    | none =>
      have missing := all m among
      rw [read] at missing
      simp [Member.takes, due] at missing
    | some values =>
      refine ⟨values, rfl, fun m among => ?_⟩
      have takes := all m among
      rwa [read] at takes

/-- What stands under the name of a required member has the shape of the member. -/
theorem IsPlain.shape_of_field? (plain : r.IsPlain) {v w : Json} (fits : r.shape v = true)
    {name : String} {s : Shape} (among : Member.required name s ∈ r.members)
    (found : v.field? r.names name = some w) : s w = true := by
  obtain ⟨_, again, holds⟩ := Member.takes_required_iff.1 ((plain.shape_iff v).1 fits _ among)
  cases Option.some.inj (found.symm.trans again)
  exact holds

end Layout

end Mhtml
