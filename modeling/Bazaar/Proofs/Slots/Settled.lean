import Bazaar.Proofs.Slots.Total

/-! # Slot lists without empty stacks

A slot with an empty stack is as good as a slot with none. Settling a list of slots takes the empty
stacks out. Insertions and removals do the same on a list and on the settled one, and leave lists
that settle to the same.
-/

namespace Bazaar

variable {s t : Stack} {n : Amount}

theorem nonEmpty?_of_isEmpty (h : s.isEmpty = true) : nonEmpty? (some s) = none := by
  simp [nonEmpty?, h]

theorem nonEmpty?_of_not_isEmpty (h : s.isEmpty = false) : nonEmpty? (some s) = some s := by
  simp [nonEmpty?, h]

theorem nonEmpty?_eq_some_iff {slot : Option Stack} {s : Stack} :
    nonEmpty? slot = some s ↔ slot = some s ∧ s.isEmpty = false := by
  cases slot with
  | none => simp [nonEmpty?]
  | some t =>
    cases ht : t.isEmpty
    · simp only [nonEmpty?, ht, Bool.false_eq_true, if_false, Option.some.injEq]
      exact ⟨fun h => ⟨h, h ▸ ht⟩, And.left⟩
    · simp only [nonEmpty?, ht, if_true, reduceCtorEq, Option.some.injEq, false_iff, not_and]
      rintro rfl
      simp [ht]

theorem nonEmpty?_eq_none_iff {slot : Option Stack} :
    nonEmpty? slot = none ↔ (amountIn slot).val = 0 := by
  cases slot with
  | none => simp [nonEmpty?]
  | some s => simp [nonEmpty?, Stack.isEmpty, Amount.ext_iff]

theorem nonEmpty?_nonEmpty? (slot : Option Stack) :
    nonEmpty? (nonEmpty? slot) = nonEmpty? slot := by
  cases hslot : nonEmpty? slot with
  | none => rfl
  | some s => exact nonEmpty?_of_not_isEmpty (nonEmpty?_eq_some_iff.1 hslot).2

theorem nonEmpty?_decreasedBy (s : Stack) (n : Amount) :
    nonEmpty? (s.decreasedBy n) = s.decreasedBy n := by
  unfold Stack.decreasedBy
  split
  case isTrue => rfl
  case isFalse h =>
    apply nonEmpty?_of_not_isEmpty
    exact decide_eq_false h

namespace Slots

/-- The slots with every empty stack taken out. -/
def settled (slots : Slots) : Slots := slots.map nonEmpty?

@[simp] theorem settled_cons (slot : Option Stack) (r : Slots) :
    settled (slot :: r) = nonEmpty? slot :: settled r := rfl

theorem settled_settled (slots : Slots) : settled (settled slots) = settled slots := by
  unfold settled
  rw [List.map_map]
  exact List.map_congr_left fun slot _ => nonEmpty?_nonEmpty? slot

theorem total_settled (q : Pick) (slots : Slots) : total q slots.settled = total q slots := by
  induction slots with
  | nil => rfl
  | cons slot r ih => rw [settled_cons, total_cons, total_cons, portion_nonEmpty?, ih]

theorem occupied_nonEmpty? (slot : Option Stack) : occupied (nonEmpty? slot) = occupied slot := by
  cases slot with
  | none => rfl
  | some s => cases h : s.isEmpty <;> simp [nonEmpty?, occupied, h]

/-! ## Operations on settled slots

An empty stack is changed as no stack is, and what an operation puts into a slot is not empty. So
each slot may be settled before or after. -/

theorem removeSlot_nonEmpty? (p : Pick) (n : Amount) (slot : Option Stack) :
    removeSlot p n (nonEmpty? slot) = nonEmpty? (removeSlot p n slot) := by
  cases slot with
  | none => rfl
  | some t =>
    cases ht : t.isEmpty with
    | true => simp [removeSlot, nonEmpty?, ht]
    | false =>
      rw [nonEmpty?_of_not_isEmpty ht]
      obtain ⟨-, hsame⟩ | ⟨_, -, -, -, htake⟩ := removeSlot_cases p (some t)
      · rw [hsame, nonEmpty?_of_not_isEmpty ht]
      · rw [htake, nonEmpty?_decreasedBy]

theorem topSlot_nonEmpty? (s : Stack) (n : Amount) (slot : Option Stack) :
    topSlot s n (nonEmpty? slot) = nonEmpty? (topSlot s n slot) := by
  cases slot with
  | none => rfl
  | some t =>
    cases ht : t.isEmpty with
    | true => simp [topSlot, nonEmpty?, ht]
    | false =>
      rw [nonEmpty?_of_not_isEmpty ht]
      obtain ⟨-, hsame⟩ | ⟨_, ⟨⟩, -, -, -, htop⟩ := topSlot_cases s (some t)
      · rw [hsame, nonEmpty?_of_not_isEmpty ht]
      · rw [htop, nonEmpty?_of_not_isEmpty (Stack.isEmpty_topped ht n)]

theorem topRoom_nonEmpty? (s : Stack) (slot : Option Stack) :
    topRoom s (nonEmpty? slot) = topRoom s slot := by
  cases slot with
  | none => rfl
  | some t => cases ht : t.isEmpty <;> simp [topRoom, nonEmpty?, ht]

theorem freeRoom_nonEmpty? (s : Stack) (slot : Option Stack) :
    freeRoom s (nonEmpty? slot) = freeRoom s slot := by
  rw [freeRoom, freeRoom, occupied_nonEmpty?]

theorem fillSlot_nonEmpty? (s : Stack) (n : Amount) (slot : Option Stack) :
    fillSlot s n (nonEmpty? slot) = nonEmpty? (fillSlot s n slot) := by
  rw [fillSlot, fillSlot, occupied_nonEmpty?]
  split
  case isTrue => rfl
  case isFalse h =>
    have hn : n ≠ 0 := by simp_all
    exact (nonEmpty?_of_not_isEmpty (Stack.isEmpty_filled hn s)).symm

theorem remove_settled (pick : Pick) (n : Amount) (slots : Slots) :
    remove pick n slots.settled = ((remove pick n slots).1.settled, (remove pick n slots).2) := by
  rw [remove_eq_walk, remove_eq_walk]
  exact walk_map (removeSlot_nonEmpty? pick) portion_nonEmpty? n slots

theorem topUp_settled (s : Stack) (n : Amount) (slots : Slots) :
    topUp s n slots.settled = ((topUp s n slots).1.settled, (topUp s n slots).2) := by
  rw [topUp_eq_walk, topUp_eq_walk]
  exact walk_map (topSlot_nonEmpty? s) (topRoom_nonEmpty? s) n slots

theorem fill_settled (s : Stack) (n : Amount) (slots : Slots) :
    fill s n slots.settled = ((fill s n slots).1.settled, (fill s n slots).2) := by
  rw [fill_eq_walk, fill_eq_walk]
  exact walk_map (fillSlot_nonEmpty? s) (freeRoom_nonEmpty? s) n slots

theorem add_settled (s : Stack) (slots : Slots) :
    add s slots.settled = ((add s slots).1.settled, (add s slots).2) := by
  unfold add
  rw [topUp_settled]
  exact fill_settled s _ _

theorem reverseSections_settled (slots : Slots) :
    reverseSections slots.settled = (reverseSections slots).settled := by
  simp only [reverseSections, settled, List.map_append, List.map_reverse, List.map_take,
    List.map_drop]

theorem addInClientOrder_settled (s : Stack) (slots : Slots) :
    addInClientOrder s slots.settled =
      ((addInClientOrder s slots).1.settled, (addInClientOrder s slots).2) := by
  simp only [addInClientOrder, reverseSections_settled, add_settled]

end Slots

end Bazaar
