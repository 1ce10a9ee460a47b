import Mhtml.Tree.Basic

/-!
# Walking a tree without recursion

A walk keeps the forests it still has to visit, innermost first, so its depth
does not show on the call stack. `Walk.next?` finds the next element and
`Walk.toList` all that are left.
-/

namespace Mhtml

/-- The first element of a run with the siblings after it. -/
def Forest.uncons? : Forest → Option (Element × Forest)
  | nil => none
  | text _ rest => rest.uncons?
  | element tags children rest => some (⟨tags, children⟩, rest)

/-- A walk over elements in document order. -/
structure Walk where
  /-- The runs still to be visited, the innermost first. -/
  pending : List Forest

namespace Walk

/-- The walk that has all of a forest before it. -/
def start (nodes : Forest) : Walk :=
  ⟨[nodes]⟩

/-- The first element of the pending runs with the runs pending after it. -/
def step? : List Forest → Option (Element × List Forest)
  | [] => none
  | run :: runs =>
    match run.uncons? with
    | some (e, rest) => some (e, e.children :: rest :: runs)
    | none => step? runs

/-- The next element and the walk after it, or nothing at the end. -/
def next? (w : Walk) : Option (Element × Walk) :=
  (step? w.pending).map fun (e, runs) => (e, ⟨runs⟩)

theorem sizeOf_uncons? {f rest : Forest} {e : Element} (h : f.uncons? = some (e, rest)) :
    1 + sizeOf e.children + sizeOf rest < sizeOf f := by
  induction f with
  | nil => cases h
  | text span r ih =>
    have := ih h
    simp only [Forest.text.sizeOf_spec]
    omega
  | element tags children r _ _ =>
    cases h
    simp only [Forest.element.sizeOf_spec]
    have : 0 < sizeOf tags := by cases tags; simp only [ElementTags.mk.sizeOf_spec]; omega
    omega

theorem sizeOf_step? {runs after : List Forest} {e : Element} (h : step? runs = some (e, after)) :
    sizeOf after < sizeOf runs := by
  induction runs with
  | nil => cases h
  | cons run runs ih =>
    simp only [step?] at h
    split at h
    next first rest hu =>
      cases h
      have := sizeOf_uncons? hu
      simp only [List.cons.sizeOf_spec]
      omega
    next =>
      have := ih h
      simp only [List.cons.sizeOf_spec]
      omega

/-- Puts the elements of the pending runs before `found`, the latest one first. -/
def collect (runs : List Forest) (found : List Element) : List Element :=
  match _ : step? runs with
  | none => found
  | some (e, after) => collect after (e :: found)
termination_by sizeOf runs
decreasing_by exact sizeOf_step? (by assumption)

/-- The elements left to visit. -/
def toList (w : Walk) : List Element :=
  (collect w.pending []).reverse

end Walk

/-- All elements below `e` in document order. -/
def Element.descendants (e : Element) : List Element :=
  (Walk.start e.children).toList

end Mhtml
