import Mhtml.Proofs.Tree.Order

/-!
# Walks and the shape of a tree

A walk is asked for one element at a time and keeps what it still has to visit. What
is left of it is told by recursion over the runs that are pending: `Walk.remaining`.
Each time it is asked, a walk gives the first of the elements left and keeps the
others, so all that it ever gives is told by what was left when it started.

That the recursion itself lists a tree in document order is said without it, by
addresses. An address leads to a node through its places among its siblings and
among those of the elements around it. In lexicographic order an address comes
before those that go on from it, and after those that turn off to an earlier
sibling, which is what document order asks for.
-/

namespace Mhtml

namespace Walk

/-- The elements left to visit, as recursion lists them. -/
def remaining (w : Walk) : List Element :=
  w.pending.flatMap Forest.preorder

/-- Asked for one element after the other, the walk gives these and has then become `after`. -/
inductive Gives : Walk → List Element → Walk → Prop
  | nothing (w : Walk) : Gives w [] w
  | more {w w' after : Walk} {e : Element} {es : List Element} (first : w.next? = some (e, w'))
    (later : Gives w' es after) : Gives w (e :: es) after

variable {w w' after : Walk} {e : Element} {es : List Element}

/-- A walk gives the first of the elements that are left, and the others are left then. -/
theorem remaining_of_next?_eq_some (given : w.next? = some (e, w')) :
    w.remaining = e :: w'.remaining := by
  obtain ⟨⟨found, runs⟩, step, same⟩ := Option.map_eq_some_iff.1 given
  cases same
  exact preorder_of_step?_eq_some step

/-- A walk ends just if nothing is left. -/
theorem next?_eq_none_iff : w.next? = none ↔ w.remaining = [] := by
  constructor
  · intro ended
    exact preorder_of_step?_eq_none (Option.map_eq_none_iff.1 ended)
  · intro nothing
    cases given : w.next? with
    | none => rfl
    | some pair => rw [remaining_of_next?_eq_some given] at nothing; cases nothing

theorem remaining_start (f : Forest) : (start f).remaining = f.preorder :=
  List.flatMap_singleton Forest.preorder f

/-- What a walk has given comes before what is left. -/
theorem Gives.remaining_eq (gives : w.Gives es after) : w.remaining = es ++ after.remaining := by
  induction gives with
  | nothing w => rfl
  | more first _ ih => rw [remaining_of_next?_eq_some first, ih, List.cons_append]

/-- A walk gives as many of the elements left as it is asked for. -/
theorem exists_gives {rest : List Element} (left : w.remaining = es ++ rest) :
    ∃ after, w.Gives es after ∧ after.remaining = rest := by
  induction es generalizing w with
  | nil => exact ⟨w, .nothing w, left⟩
  | cons e es ih =>
    cases given : w.next? with
    | none =>
      rw [next?_eq_none_iff.1 given] at left
      cases left
    | some pair =>
      obtain ⟨found, w'⟩ := pair
      rw [remaining_of_next?_eq_some given, List.cons_append] at left
      obtain ⟨rfl, later⟩ := List.cons.inj left
      obtain ⟨after, gives, rest⟩ := ih later
      exact ⟨after, .more given gives, rest⟩

end Walk

/-- The element that a node is, if it is one. -/
def Node.element? : Node → Option Element
  | text _ => none
  | element e => some e

namespace Forest

/-- The element that an address leads to. The first number is the place of a node in the run, and the
others are an address among what the element there holds. -/
def follow? (f : Forest) : List Nat → Option Element
  | [] => none
  | [n] => f.toNodes[n]?.bind Node.element?
  | n :: address => (f.toNodes[n]?.bind Node.element?).bind (·.children.follow? address)

/-- The list has the elements of the forest, each once and in document order: their addresses are all
those that lead to an element, in lexicographic order. -/
def ListsInOrder (f : Forest) (es : List Element) : Prop :=
  ∃ addresses : List (List Nat), addresses.Pairwise (· < ·) ∧
    (∀ address, address ∈ addresses ↔ (f.follow? address).isSome = true) ∧
    addresses.map f.follow? = es.map some

/-- An address that has one more node of the run to pass over. -/
def further : List Nat → List Nat
  | [] => []
  | n :: address => (n + 1) :: address

theorem further_lt_iff {a b : List Nat} : further a < further b ↔ a < b := by
  cases a <;> cases b <;> simp [further, List.cons_lt_cons_iff]

variable {tags : ElementTags} {children rest : Forest}

theorem follow?_text_zero (span : Span) (rest : Forest) (address : List Nat) :
    (text span rest).follow? (0 :: address) = none := by
  cases address <;> rfl

theorem follow?_text_further (span : Span) (rest : Forest) (address : List Nat) :
    (text span rest).follow? (further address) = rest.follow? address := by
  match address with
  | [] => rfl
  | [n] => rfl
  | n :: m :: address => rfl

theorem follow?_element_inside {address : List Nat} (further : address ≠ []) :
    (element tags children rest).follow? (0 :: address) = children.follow? address := by
  cases address with
  | nil => exact absurd rfl further
  | cons m address => rfl

theorem follow?_element_further (address : List Nat) :
    (element tags children rest).follow? (further address) = rest.follow? address := by
  match address with
  | [] => rfl
  | [n] => rfl
  | n :: m :: address => rfl

/-- Addresses that are in order and miss no element list the elements that they lead to. -/
theorem listsInOrder_of {f : Forest} {es : List Element} (addresses : List (List Nat))
    (ordered : addresses.Pairwise (· < ·)) (same : addresses.map f.follow? = es.map some)
    (complete : ∀ address, (f.follow? address).isSome = true → address ∈ addresses) :
    f.ListsInOrder es := by
  refine ⟨addresses, ordered, fun address => ⟨fun among => ?_, complete address⟩, same⟩
  have leads := List.mem_map_of_mem (f := f.follow?) among
  rw [same] at leads
  obtain ⟨e, -, found⟩ := List.mem_map.1 leads
  rw [← found]
  rfl

theorem ListsInOrder.text {es : List Element} (lists : rest.ListsInOrder es) (span : Span) :
    (text span rest).ListsInOrder es := by
  obtain ⟨addresses, ordered, all, same⟩ := lists
  refine listsInOrder_of (addresses.map further) ?_ ?_ ?_
  · exact List.pairwise_map.2 (ordered.imp further_lt_iff.2)
  · rw [List.map_map, ← same]
    exact List.map_congr_left fun a _ => follow?_text_further span rest a
  · intro address leads
    match address with
    | [] => cases leads
    | 0 :: address =>
      rw [follow?_text_zero] at leads
      cases leads
    | (n + 1) :: address =>
      have there : (rest.follow? (n :: address)).isSome = true :=
        follow?_text_further span rest (n :: address) ▸ leads
      exact List.mem_map.2 ⟨n :: address, (all _).2 there, rfl⟩

/-- An address of an element is not empty. -/
theorem ne_nil_of_follow? {f : Forest} {a : List Nat} (leads : (f.follow? a).isSome = true) :
    a ≠ [] := by
  rintro rfl
  cases leads

theorem ListsInOrder.element {below later : List Element} (inside : children.ListsInOrder below)
    (after : rest.ListsInOrder later) (tags : ElementTags) :
    (element tags children rest).ListsInOrder (⟨tags, children⟩ :: (below ++ later)) := by
  obtain ⟨inner, orderedInner, allInner, sameInner⟩ := inside
  obtain ⟨outer, orderedOuter, allOuter, sameOuter⟩ := after
  have someInner : ∀ a ∈ inner, a ≠ [] := fun a among => ne_nil_of_follow? ((allInner a).1 among)
  have someOuter : ∀ a ∈ outer, a ≠ [] := fun a among => ne_nil_of_follow? ((allOuter a).1 among)
  have first : ∀ a ∈ outer, ∀ b, 0 :: b < further a := by
    intro a among b
    cases a with
    | nil => exact absurd rfl (someOuter [] among)
    | cons n a => exact List.cons_lt_cons_iff.2 (Or.inl (Nat.succ_pos n))
  -- The element itself stands at `[0]`, all below it further inside, and the rest of the run after it.
  refine listsInOrder_of ([0] :: (inner.map (0 :: ·) ++ outer.map further)) ?_ ?_ ?_
  · rw [List.pairwise_cons, List.pairwise_append]
    refine ⟨?_, ?_, ?_, ?_⟩
    · intro b among
      rcases List.mem_append.1 among with among | among
      · obtain ⟨a, own, rfl⟩ := List.mem_map.1 among
        refine List.cons_lt_cons_iff.2 (Or.inr ⟨rfl, ?_⟩)
        obtain ⟨n, a, rfl⟩ := List.exists_cons_of_ne_nil (someInner a own)
        exact List.nil_lt_cons n a
      · obtain ⟨a, own, rfl⟩ := List.mem_map.1 among
        exact first a own []
    · refine List.pairwise_map.2 (orderedInner.imp fun before => ?_)
      exact List.cons_lt_cons_iff.2 (Or.inr ⟨rfl, before⟩)
    · exact List.pairwise_map.2 (orderedOuter.imp further_lt_iff.2)
    · intro a left b right
      obtain ⟨a, -, rfl⟩ := List.mem_map.1 left
      obtain ⟨b, own, rfl⟩ := List.mem_map.1 right
      exact first b own a
  · have leadInside : inner.map ((Forest.element tags children rest).follow? ∘ (0 :: ·)) =
        inner.map children.follow? :=
      List.map_congr_left fun a among => follow?_element_inside (someInner a among)
    have leadAfter : outer.map ((Forest.element tags children rest).follow? ∘ further) =
        outer.map rest.follow? :=
      List.map_congr_left fun a _ => follow?_element_further a
    rw [List.map_cons, List.map_append, List.map_map, List.map_map, leadInside, leadAfter, sameInner,
      sameOuter, ← List.map_append]
    rfl
  · intro address leads
    match address with
    | [] => cases leads
    | [0] => exact List.mem_cons_self
    | 0 :: m :: address =>
      rw [follow?_element_inside (List.cons_ne_nil m address)] at leads
      refine List.mem_cons_of_mem _ (List.mem_append_left _ ?_)
      exact List.mem_map_of_mem ((allInner _).2 leads)
    | (n + 1) :: address =>
      have there : (rest.follow? (n :: address)).isSome = true :=
        follow?_element_further (n :: address) ▸ leads
      refine List.mem_cons_of_mem _ (List.mem_append_right _ ?_)
      exact List.mem_map.2 ⟨n :: address, (allOuter _).2 there, rfl⟩

/-- Recursion lists the elements of a forest in document order. -/
theorem listsInOrder_preorder (f : Forest) : f.ListsInOrder f.preorder := by
  induction f with
  | nil =>
    refine listsInOrder_of [] List.Pairwise.nil rfl fun address leads => ?_
    match address with
    | [] | [_] | _ :: _ :: _ => cases leads
  | text span rest ih => exact ih.text span
  | element tags children rest ihc ihr => exact ihc.element ihr tags

end Forest

/-- **A walk is recursion in document order.** Asked for one element after the other, the walk over a
forest gives the elements that recursion lists, from the first one on. It ends after all of them and not
before. They are the elements of the forest, each once, every one before those below it and after those
that precede it with all that they hold. What is below an element is listed in the same way, without
the element itself. -/
theorem walk_lists_preorder (f : Forest) :
    (∀ es, (∃ after, (Walk.start f).Gives es after) ↔ es <+: f.preorder) ∧
    (∀ es, (∃ after, (Walk.start f).Gives es after ∧ after.next? = none) ↔ es = f.preorder) ∧
    (Walk.start f).toList = f.preorder ∧ f.ListsInOrder f.preorder ∧
    ∀ e : Element, (Walk.start (.cons (.element e) .nil)).toList = e :: e.descendants := by
  refine ⟨fun es => ?_, fun es => ?_, Walk.toList_start f, f.listsInOrder_preorder, fun e => ?_⟩
  · constructor
    · rintro ⟨after, gives⟩
      exact ⟨after.remaining, by rw [← gives.remaining_eq, Walk.remaining_start]⟩
    · rintro ⟨rest, whole⟩
      obtain ⟨after, gives, -⟩ :=
        Walk.exists_gives ((Walk.remaining_start f).trans whole.symm)
      exact ⟨after, gives⟩
  · constructor
    · rintro ⟨after, gives, ended⟩
      rw [← Walk.remaining_start, gives.remaining_eq, Walk.next?_eq_none_iff.1 ended, List.append_nil]
    · rintro rfl
      have whole : (Walk.start f).remaining = f.preorder ++ [] := by
        rw [Walk.remaining_start, List.append_nil]
      obtain ⟨after, gives, nothing⟩ := Walk.exists_gives whole
      exact ⟨after, gives, Walk.next?_eq_none_iff.2 nothing⟩
  · rw [Walk.toList_start, Element.descendants_eq]
    exact congrArg (e :: ·) (List.append_nil _)

end Mhtml
