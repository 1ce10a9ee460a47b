import Mhtml.Tree.Basic

/-!
# Open elements

While a tree is built, the elements whose closing tag has not been seen lie
inside each other, the innermost first. A closing tag asks for the innermost one
of its name. The number of open elements of each name is kept beside them, so
that a closing tag of a name that none has is told without looking through them.
Main statements: `split?_eq_none_iff` and `of_split?_eq_some` say what a closing
tag finds, in terms of the elements alone.
-/

namespace Mhtml

/-- An element whose closing tag has not been seen. -/
structure OpenElement where
  /-- The element's name. -/
  tag : Tag
  /-- The span of its opening tag. -/
  opening : Span
  /-- Its earlier siblings, the latest first. -/
  before : List Node

/-- The element as a node without children, after its earlier siblings; the latest first. -/
def OpenElement.abandoned (e : OpenElement) : List Node :=
  .element ⟨⟨e.tag, e.opening, .unclosed⟩, .nil⟩ :: e.before

/-- A number for each name; a name that is not listed has zero. -/
abbrev Tally := List (Tag × Nat)

namespace Tally

/-- The number of a name. -/
def get : Tally → Tag → Nat
  | [], _ => 0
  | (t, n) :: rest, tag => if t = tag then n else get rest tag

/-- Changes the number of a name. -/
def modify (f : Nat → Nat) (tag : Tag) : Tally → Tally
  | [] => [(tag, f 0)]
  | (t, n) :: rest => if t = tag then (t, f n) :: rest else (t, n) :: modify f tag rest

theorem get_modify (f : Nat → Nat) (tag t : Tag) (tally : Tally) :
    (tally.modify f tag).get t = if tag = t then f (tally.get t) else tally.get t := by
  induction tally with
  | nil => simp [modify, get]
  | cons entry rest ih =>
    obtain ⟨name, n⟩ := entry
    by_cases h : name = tag
    · subst h
      by_cases ht : name = t <;> simp [modify, get, ht]
    · by_cases ht : name = t
      · subst ht
        simp [modify, get, h, Ne.symm h]
      · simp [modify, get, h, ht, ih]

end Tally

/-- How many of some elements have a name. -/
def OpenElement.count (es : List OpenElement) (tag : Tag) : Nat :=
  es.countP (·.tag == tag)

/-- The open elements with their numbers by name. -/
structure OpenElements where
  /-- The elements, the innermost first. -/
  toList : List OpenElement
  /-- The number of elements of each name. -/
  tally : Tally
  /-- The numbers are those of the elements. -/
  tally_eq : ∀ tag, tally.get tag = OpenElement.count toList tag

namespace OpenElements

/-- No element is open. -/
def empty : OpenElements where
  toList := []
  tally := []
  tally_eq := fun _ => rfl

instance : EmptyCollection OpenElements :=
  ⟨empty⟩

/-- Opens an element inside the others. -/
def push (o : OpenElements) (e : OpenElement) : OpenElements where
  toList := e :: o.toList
  tally := o.tally.modify (· + 1) e.tag
  tally_eq := fun tag => by
    rw [Tally.get_modify, o.tally_eq tag, OpenElement.count, OpenElement.count, List.countP_cons]
    by_cases h : e.tag = tag <;> simp [h]

/-- Counts one element less of its name. -/
def uncount (tally : Tally) (e : OpenElement) : Tally :=
  tally.modify (· - 1) e.tag

theorem get_foldl_uncount (tally : Tally) (es : List OpenElement) (tag : Tag) :
    (es.foldl uncount tally).get tag = tally.get tag - OpenElement.count es tag := by
  induction es generalizing tally with
  | nil => rfl
  | cons e es ih =>
    rw [List.foldl_cons, ih, uncount, Tally.get_modify, OpenElement.count, OpenElement.count,
      List.countP_cons]
    by_cases h : e.tag = tag
    · simp [h]
      omega
    · simp [h]

/-- The innermost element of a name, with those inside it and those around it. -/
def split? (o : OpenElements) (tag : Tag) :
    Option (List OpenElement × OpenElement × OpenElements) :=
  if o.tally.get tag = 0 then none
  else
    let inner := o.toList.takeWhile (·.tag != tag)
    match h : o.toList.dropWhile (·.tag != tag) with
    | [] => none
    | e :: outer =>
      some (inner, e, {
        toList := outer
        tally := uncount (inner.foldl uncount o.tally) e
        tally_eq := fun t => by
          have parts : o.toList = inner ++ e :: outer := by
            rw [← h]
            exact List.takeWhile_append_dropWhile.symm
          have left := get_foldl_uncount o.tally (inner ++ [e]) t
          rw [List.foldl_append, o.tally_eq t, parts] at left
          simp only [List.foldl_cons, List.foldl_nil, OpenElement.count, List.countP_append,
            List.countP_cons, List.countP_nil] at left
          rw [left, OpenElement.count]
          omega })

/-- A name finds nothing just if no open element has it. -/
theorem split?_eq_none_iff (o : OpenElements) (tag : Tag) :
    o.split? tag = none ↔ ∀ e ∈ o.toList, e.tag ≠ tag := by
  have count := o.tally_eq tag
  unfold split?
  split
  next h =>
    rw [h, OpenElement.count, eq_comm, List.countP_eq_zero] at count
    simpa using count
  next h =>
    have found : ∃ e ∈ o.toList, e.tag = tag := by
      rw [count, OpenElement.count] at h
      simpa using List.countP_pos_iff.1 (Nat.pos_of_ne_zero h)
    dsimp only
    split
    next hd =>
      obtain ⟨e, he, rfl⟩ := found
      rw [← List.takeWhile_append_dropWhile (p := (·.tag != e.tag)) (l := o.toList), hd,
        List.append_nil] at he
      have := List.all_eq_true.1 List.all_takeWhile e he
      simp at this
    next => simpa using found

/-- What a name finds is the innermost element that has it. -/
theorem of_split?_eq_some {o outer : OpenElements} {tag : Tag} {inner : List OpenElement}
    {e : OpenElement} (h : o.split? tag = some (inner, e, outer)) :
    o.toList = inner ++ e :: outer.toList ∧ e.tag = tag ∧ ∀ i ∈ inner, i.tag ≠ tag := by
  unfold split? at h
  split at h
  next => cases h
  next =>
    dsimp only at h
    split at h
    next => cases h
    next hd =>
      cases h
      refine ⟨?_, ?_, fun i hi => ?_⟩
      · rw [← hd]
        exact List.takeWhile_append_dropWhile.symm
      · have := List.head?_dropWhile_not (·.tag != tag) o.toList
        rw [hd] at this
        simpa using this
      · simpa using List.all_eq_true.1 List.all_takeWhile i hi

end OpenElements

end Mhtml
