import Mhtml.Document

/-!
# Document order

A walk visits the elements of a forest in the order of `Forest.preorder`.
`Forest.placed` lists them in the same order, each with the elements around it,
which tells how deep it stands and what it stands in.
-/

namespace Mhtml

/-- An element and where it stands. -/
structure Placed where
  /-- The element. -/
  element : Element
  /-- The elements around it, the innermost first. -/
  around : List Element

/-- How deep an element stands; one that nothing is around has depth one. -/
def Placed.depth (p : Placed) : Nat :=
  p.around.length + 1

/-- The elements of a node in document order. -/
def Node.preorder : Node → List Element
  | text _ => []
  | element e => e :: e.children.preorder

namespace Forest

/-- What a forest lists node by node, it lists in turn for the nodes it was made of. -/
theorem list_ofReversed {α : Type} {list : Forest → List α} {part : Node → List α}
    (none : list nil = []) (first : ∀ node rest, list (cons node rest) = part node ++ list rest)
    (nodes : List Node) : list (ofReversed nodes) = nodes.reverse.flatMap part := by
  have before : ∀ rest, list (nodes.foldl (fun rest node => cons node rest) rest) =
      nodes.reverse.flatMap part ++ list rest := by
    induction nodes with
    | nil => exact fun rest => rfl
    | cons node nodes ih =>
      intro rest
      rw [List.foldl_cons, ih, first, List.reverse_cons, List.flatMap_append, List.append_assoc,
        List.flatMap_singleton]
  rw [ofReversed, before, none, List.append_nil]

/-- A forest that is changed node by node is made of what becomes of its nodes. -/
theorem map_ofReversed {map : Forest → Forest} {part : Node → Option Node} (none : map nil = nil)
    (first : ∀ node rest, map (cons node rest) = (part node).elim (map rest) (cons · (map rest)))
    (nodes : List Node) : map (ofReversed nodes) = ofReversed (nodes.filterMap part) := by
  have before : ∀ rest, map (nodes.foldl (fun rest node => cons node rest) rest) =
      (nodes.filterMap part).foldl (fun rest node => cons node rest) (map rest) := by
    induction nodes with
    | nil => exact fun rest => rfl
    | cons node nodes ih =>
      intro rest
      rw [List.foldl_cons, ih, first, List.filterMap_cons]
      cases part node <;> rfl
  rw [ofReversed, before, none, ofReversed]

theorem preorder_ofReversed (nodes : List Node) :
    (ofReversed nodes).preorder = nodes.reverse.flatMap Node.preorder :=
  list_ofReversed rfl (fun node _ => by cases node <;> rfl) nodes

/-- The nodes of a run in order. -/
def toNodes : Forest → List Node
  | nil => []
  | text span rest => .text span :: rest.toNodes
  | element tags children rest => .element ⟨tags, children⟩ :: rest.toNodes

/-- The nodes at all depths, each before what it holds and after what precedes it. -/
def allNodes : Forest → List Node
  | nil => []
  | text span rest => .text span :: rest.allNodes
  | element tags children rest =>
    .element ⟨tags, children⟩ :: (children.allNodes ++ rest.allNodes)

/-- The elements in document order, each with those around it; `around` is around all of them. -/
def placed (around : List Element) : Forest → List Placed
  | nil => []
  | text _ rest => rest.placed around
  | element tags children rest =>
    ⟨⟨tags, children⟩, around⟩ ::
      (children.placed (⟨tags, children⟩ :: around) ++ rest.placed around)

theorem map_element_placed (around : List Element) (f : Forest) :
    (f.placed around).map Placed.element = f.preorder := by
  induction f generalizing around with
  | nil => rfl
  | text _ rest ih => exact ih around
  | element tags children rest ihc ihr =>
    simp only [placed, preorder, List.map_cons, List.map_append, ihc, ihr]

theorem mem_preorder_of_mem_placed {around : List Element} {f : Forest} {p : Placed}
    (found : p ∈ f.placed around) : p.element ∈ f.preorder := by
  rw [← map_element_placed around]
  exact List.mem_map_of_mem found

/-- Whatever is placed in a forest has around it what is around the forest. -/
theorem le_depth_of_mem_placed {around : List Element} {f : Forest} {p : Placed}
    (found : p ∈ f.placed around) : around.length + 1 ≤ p.depth := by
  induction f generalizing around with
  | nil => cases found
  | text _ rest ih => exact ih found
  | element tags children rest ihc ihr =>
    rw [placed, List.mem_cons, List.mem_append] at found
    rcases found with rfl | inside | after
    · exact Nat.le_refl _
    · have := ihc inside
      rw [List.length_cons] at this
      omega
    · exact ihr after

/-- What is below an element of a forest is in the forest. -/
theorem mem_preorder_of_mem_children {f : Forest} {e inner : Element} (outer : e ∈ f.preorder)
    (below : inner ∈ e.children.preorder) : inner ∈ f.preorder := by
  induction f with
  | nil => cases outer
  | text _ rest ih => exact ih outer
  | element tags children rest ihc ihr =>
    rw [preorder, List.mem_cons, List.mem_append] at outer ⊢
    rcases outer with rfl | inside | after
    · exact Or.inr (Or.inl below)
    · exact Or.inr (Or.inl (ihc inside))
    · exact Or.inr (Or.inr (ihr after))

/-- What is below an element is listed in the same order as in the forest. -/
theorem preorder_sublist_of_mem {f : Forest} {e : Element} (found : e ∈ f.preorder) :
    e.children.preorder.Sublist f.preorder := by
  induction f with
  | nil => cases found
  | text _ rest ih => exact ih found
  | element tags children rest ihc ihr =>
    rw [preorder, List.mem_cons, List.mem_append] at found
    rw [preorder]
    rcases found with rfl | inside | after
    · exact (List.sublist_append_left _ _).cons _
    · exact ((ihc inside).trans (List.sublist_append_left _ _)).cons _
    · exact ((ihr after).trans (List.sublist_append_right _ _)).cons _

theorem preorder_of_uncons?_eq_none {f : Forest} (h : f.uncons? = none) : f.preorder = [] := by
  induction f with
  | nil => rfl
  | text _ rest ih => exact ih h
  | element => cases h

theorem preorder_of_uncons?_eq_some {f rest : Forest} {e : Element}
    (h : f.uncons? = some (e, rest)) : f.preorder = e :: (e.children.preorder ++ rest.preorder) := by
  induction f with
  | nil => cases h
  | text _ rest ih => exact ih h
  | element tags children after =>
    cases h
    rfl

end Forest

namespace Walk

theorem preorder_of_step?_eq_none {runs : List Forest} (h : step? runs = none) :
    runs.flatMap Forest.preorder = [] := by
  induction runs with
  | nil => rfl
  | cons run runs ih =>
    simp only [step?] at h
    split at h
    next => cases h
    next none =>
      rw [List.flatMap_cons, Forest.preorder_of_uncons?_eq_none none, ih h]
      rfl

theorem preorder_of_step?_eq_some {runs after : List Forest} {e : Element}
    (h : step? runs = some (e, after)) :
    runs.flatMap Forest.preorder = e :: after.flatMap Forest.preorder := by
  induction runs with
  | nil => cases h
  | cons run runs ih =>
    simp only [step?] at h
    split at h
    next first rest found =>
      cases h
      rw [List.flatMap_cons, Forest.preorder_of_uncons?_eq_some found]
      simp
    next none =>
      rw [List.flatMap_cons, Forest.preorder_of_uncons?_eq_none none, ih h]
      rfl

/-- A walk collects what is pending in document order. -/
theorem collect_eq (runs : List Forest) (found : List Element) :
    collect runs found = (runs.flatMap Forest.preorder).reverse ++ found := by
  fun_induction collect runs found with
  | case1 runs found ended => rw [preorder_of_step?_eq_none ended, List.reverse_nil, List.nil_append]
  | case2 runs found e after next ih =>
    rw [ih, preorder_of_step?_eq_some next, List.reverse_cons, List.append_assoc]
    rfl

/-- A walk lists the elements of a forest in document order. -/
theorem toList_start (f : Forest) : (start f).toList = f.preorder := by
  rw [toList, start, collect_eq]
  simp

end Walk

theorem Element.descendants_eq (e : Element) : e.descendants = e.children.preorder :=
  Walk.toList_start e.children

theorem Document.descendants_eq (d : Document) : d.descendants = d.nodes.preorder :=
  Walk.toList_start d.nodes

end Mhtml
