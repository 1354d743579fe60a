import Bazaar.Proofs.Slots.Walk

/-! # The operations slot by slot

Topping up, filling and removing are walks through the slots. For each of them there is what it makes
of one slot, how much of the amount this slot uses up, and when the slot stays as it is.
-/

namespace Bazaar

namespace Stack

variable {s t : Stack} {n : Amount}

/-- A stack with as much of an amount on top as it has space for. -/
def topped (t : Stack) (n : Amount) : Stack := t.withAmount (t.amount + min t.freeSpace n)

theorem val_amount_topped (t : Stack) (n : Amount) :
    (t.topped n).amount.val = t.amount.val + min t.freeSpace.val n.val := by
  have hsum : (t.amount + min t.freeSpace n).val =
      min (t.amount.val + min (t.maxSize.val - t.amount.val) n.val) 4294967295 := by
    rw [Amount.val_add, Amount.val_min, freeSpace, Amount.val_sub]
  have := t.maxSize.le_limit
  have := t.amount.le_limit
  rw [freeSpace, Amount.val_sub]
  exact hsum.trans (by omega)

theorem freeSpace_topped (t : Stack) (n : Amount) :
    (t.topped n).freeSpace.val = t.freeSpace.val - n.val := by
  have hsize : (t.topped n).maxSize = t.maxSize := rfl
  rw [freeSpace, Amount.val_sub, val_amount_topped, hsize, freeSpace, Amount.val_sub]
  omega

theorem isEmpty_topped (h : t.isEmpty = false) (n : Amount) : (t.topped n).isEmpty = false := by
  rw [isEmpty_eq_false_iff] at h ⊢
  rw [val_amount_topped]
  omega

theorem topped_of_full (h : t.freeSpace.val = 0) (n : Amount) : t.topped n = t := by
  have hsame : (t.topped n).amount = t.amount := by
    apply Amount.ext
    rw [val_amount_topped]
    omega
  exact congrArg t.withAmount hsame

def filled (s : Stack) (n : Amount) : Stack := s.withAmount (min (max s.maxSize 1) n)

theorem val_amount_filled (s : Stack) (n : Amount) :
    (s.filled n).amount.val = min (max s.maxSize.val 1) n.val := by
  rw [filled, withAmount, Amount.val_min, Amount.val_max, Amount.val_one]

theorem freeSpace_filled (s : Stack) (n : Amount) :
    (s.filled n).freeSpace.val = s.maxSize.val - min (max s.maxSize.val 1) n.val := by
  rw [freeSpace, Amount.val_sub, val_amount_filled]
  rfl

theorem isEmpty_filled (hn : n ≠ 0) (s : Stack) : (s.filled n).isEmpty = false := by
  rw [← Amount.val_pos_iff] at hn
  rw [isEmpty_eq_false_iff, val_amount_filled]
  omega

theorem similar_filled (s : Stack) (n : Amount) : (s.filled n).similar s = true :=
  decide_eq_true rfl

theorem decreasedBy_of_le (h : t.amount.val ≤ n.val) : t.decreasedBy n = none := by
  apply if_pos
  apply Amount.ext
  rw [Amount.val_sub, Amount.val_zero]
  omega

theorem decreasedBy_of_lt (h : n.val < t.amount.val) :
    t.decreasedBy n = some (t.withAmount (t.amount - n)) := by
  have hrest : 0 < (t.amount - n).val := by
    rw [Amount.val_sub]
    omega
  exact if_neg (Amount.val_pos_iff.1 hrest)

theorem decreasedBy_min (t : Stack) (n : Amount) :
    t.decreasedBy (min t.amount n) = t.decreasedBy n := by
  have hsame : t.amount - min t.amount n = t.amount - n := by
    apply Amount.ext
    rw [Amount.val_sub, Amount.val_sub, Amount.val_min]
    omega
  rw [decreasedBy, decreasedBy, hsame]

end Stack

namespace Slots

variable {p q : Pick} {s t : Stack} {slot : Option Stack} {n : Amount}

/-! ## Topping up -/

/-- How many items of a stack go on top of what a slot holds. -/
def topRoom (s : Stack) : Option Stack → Nat
  | none => 0
  | some t => if t.isEmpty || !t.similar s then 0 else t.freeSpace.val

def topSlot (s : Stack) (n : Amount) : Option Stack → Option Stack
  | none => none
  | some t =>
    if t.isEmpty || !t.similar s then some t
    else some (t.withAmount (t.amount + min t.freeSpace n))

theorem topRoom_of_similar (ht : t.isEmpty = false) (hs : t.similar s = true) :
    topRoom s (some t) = t.freeSpace.val := by
  simp [topRoom, ht, hs]

theorem topRoom_of_not_occupied (h : occupied slot = false) : topRoom s slot = 0 := by
  cases slot with
  | none => rfl
  | some t =>
    have ht : t.isEmpty = true := by simpa [occupied] using h
    simp [topRoom, ht]

theorem topSlot_of_not_occupied (h : occupied slot = false) (n : Amount) :
    topSlot s n slot = slot := by
  cases slot with
  | none => rfl
  | some t =>
    have ht : t.isEmpty = true := by simpa [occupied] using h
    simp [topSlot, ht]

theorem topSlot_of_similar (ht : t.isEmpty = false) (hs : t.similar s = true) (n : Amount) :
    topSlot s n (some t) = some (t.topped n) := by
  simp [topSlot, Stack.topped, ht, hs]

theorem topSlot_cases (s : Stack) (slot : Option Stack) :
    (topRoom s slot = 0 ∧ ∀ n, topSlot s n slot = slot) ∨
    ∃ t, slot = some t ∧ t.isEmpty = false ∧ t.similar s = true ∧
      topRoom s slot = t.freeSpace.val ∧ ∀ n, topSlot s n slot = some (t.topped n) := by
  cases slot with
  | none => exact Or.inl ⟨rfl, fun _ => rfl⟩
  | some t =>
    by_cases h : (t.isEmpty || !t.similar s) = true
    · exact Or.inl ⟨if_pos h, fun _ => if_pos h⟩
    · obtain ⟨ht, hs⟩ : t.isEmpty = false ∧ t.similar s = true := by simp_all
      exact Or.inr ⟨t, rfl, ht, hs, topRoom_of_similar ht hs, topSlot_of_similar ht hs⟩

theorem topUp_eq_walk (s : Stack) (n : Amount) (slots : Slots) :
    topUp s n slots = walk (topSlot s) (topRoom s) n slots := by
  induction slots generalizing n with
  | nil => rfl
  | cons slot r ih =>
    rw [walk_cons]
    cases slot with
    | none =>
      rw [topUp, ih, topRoom, Amount.sub_ofNat_zero]
      rfl
    | some t =>
      rw [topUp, topSlot, topRoom]
      split
      · rw [ih, Amount.sub_ofNat_zero]
      · dsimp only
        rw [ih, Amount.sub_min_eq]

theorem topUp_cons (s : Stack) (n : Amount) (slot : Option Stack) (r : Slots) :
    topUp s n (slot :: r) =
      (topSlot s n slot :: (topUp s (n - .ofNat (topRoom s slot)) r).1,
        (topUp s (n - .ofNat (topRoom s slot)) r).2) := by
  rw [topUp_eq_walk, topUp_eq_walk, walk_cons]

theorem getElem?_topUp (s : Stack) (n : Amount) (slots : Slots) (i : Nat) :
    (topUp s n slots).1[i]? =
      slots[i]?.map (topSlot s (n - .ofNat (sharesBefore (topRoom s) slots i))) := by
  rw [topUp_eq_walk, getElem?_walk]

/-! ## Filling -/

def freeRoom (s : Stack) (slot : Option Stack) : Nat :=
  if occupied slot then 0 else max s.maxSize.val 1

def fillSlot (s : Stack) (n : Amount) (slot : Option Stack) : Option Stack :=
  if n = 0 || occupied slot then slot else some (s.withAmount (min (max s.maxSize 1) n))

theorem freeRoom_of_occupied (h : occupied slot = true) : freeRoom s slot = 0 := if_pos h

theorem freeRoom_of_not_occupied (h : occupied slot = false) :
    freeRoom s slot = max s.maxSize.val 1 :=
  if_neg (by simp [h])

theorem fillSlot_of_occupied (h : occupied slot = true) (n : Amount) : fillSlot s n slot = slot :=
  if_pos (by simp [h])

theorem fillSlot_of_not_occupied (h : occupied slot = false) (hn : n ≠ 0) :
    fillSlot s n slot = some (s.filled n) :=
  if_neg (by simp [h, hn])

theorem fillSlot_zero (s : Stack) (slot : Option Stack) : fillSlot s 0 slot = slot :=
  if_pos (by simp)

theorem fillSlot_cases (s : Stack) (n : Amount) (slot : Option Stack) :
    (min (freeRoom s slot) n.val = 0 ∧ fillSlot s n slot = slot) ∨
    (n ≠ 0 ∧ occupied slot = false ∧ fillSlot s n slot = some (s.filled n)) := by
  by_cases hn : n = 0
  · exact Or.inl ⟨by simp [hn], by rw [hn, fillSlot_zero]⟩
  · cases hslot : occupied slot with
    | true => exact Or.inl ⟨by simp [freeRoom_of_occupied hslot], fillSlot_of_occupied hslot n⟩
    | false => exact Or.inr ⟨hn, rfl, fillSlot_of_not_occupied hslot hn⟩

theorem fill_eq_walk (s : Stack) (n : Amount) (slots : Slots) :
    fill s n slots = walk (fillSlot s) (freeRoom s) n slots := by
  induction slots generalizing n with
  | nil => rfl
  | cons slot r ih =>
    rw [walk_cons, fill, fillSlot]
    split
    case isTrue h =>
      have hleft : n - .ofNat (freeRoom s slot) = n := by
        rcases Bool.or_eq_true_iff.1 h with hn | hslot
        · obtain rfl : n = 0 := by simpa using hn
          apply Amount.ext
          rw [Amount.val_sub_ofNat, Amount.val_zero, Nat.zero_sub]
        · rw [freeRoom_of_occupied hslot, Amount.sub_ofNat_zero]
      rw [ih, hleft]
    case isFalse h =>
      have hslot : occupied slot = false := by simp_all
      have hmax : max s.maxSize.val 1 = (max s.maxSize 1).val := by
        rw [Amount.val_max, Amount.val_one]
      dsimp only
      rw [ih, Amount.sub_min_eq, freeRoom_of_not_occupied hslot, hmax]

theorem fill_cons (s : Stack) (n : Amount) (slot : Option Stack) (r : Slots) :
    fill s n (slot :: r) =
      (fillSlot s n slot :: (fill s (n - .ofNat (freeRoom s slot)) r).1,
        (fill s (n - .ofNat (freeRoom s slot)) r).2) := by
  rw [fill_eq_walk, fill_eq_walk, walk_cons]

theorem getElem?_fill (s : Stack) (n : Amount) (slots : Slots) (i : Nat) :
    (fill s n slots).1[i]? =
      slots[i]?.map (fillSlot s (n - .ofNat (sharesBefore (freeRoom s) slots i))) := by
  rw [fill_eq_walk, getElem?_walk]

theorem fill_zero (s : Stack) (slots : Slots) : fill s 0 slots = (slots, 0) := by
  induction slots with
  | nil => rfl
  | cons slot r ih => simp [fill, ih]

/-! ## Removing -/

def portion (pick : Pick) : Option Stack → Nat
  | none => 0
  | some s => if pick s then s.amount.val else 0

def removeSlot (p : Pick) (n : Amount) : Option Stack → Option Stack
  | none => none
  | some t => if t.isEmpty || !p t then some t else t.decreasedBy (min t.amount n)

@[simp] theorem portion_none : portion q none = 0 := rfl

@[simp] theorem portion_some : portion q (some s) = if q s then s.amount.val else 0 := rfl

theorem portion_of_skipped (h : (t.isEmpty || !p t) = true) : portion p (some t) = 0 := by
  rcases Bool.or_eq_true_iff.1 h with ht | hp
  · obtain ht : t.amount = 0 := by simpa [Stack.isEmpty] using ht
    simp [ht]
  · simp_all

theorem removeSlot_of_picked (hp : p t = true) (ht : t.isEmpty = false) (n : Amount) :
    removeSlot p n (some t) = t.decreasedBy n :=
  (if_neg (by simp [hp, ht])).trans (t.decreasedBy_min n)

theorem removeSlot_cases (p : Pick) (slot : Option Stack) :
    (portion p slot = 0 ∧ ∀ n, removeSlot p n slot = slot) ∨
    ∃ t, slot = some t ∧ t.isEmpty = false ∧ p t = true ∧
      ∀ n, removeSlot p n slot = t.decreasedBy n := by
  cases slot with
  | none => exact Or.inl ⟨rfl, fun _ => rfl⟩
  | some t =>
    by_cases h : (t.isEmpty || !p t) = true
    · exact Or.inl ⟨portion_of_skipped h, fun n => if_pos h⟩
    · obtain ⟨ht, hp⟩ : t.isEmpty = false ∧ p t = true := by simp_all
      exact Or.inr ⟨t, rfl, ht, hp, removeSlot_of_picked hp ht⟩

theorem remove_eq_walk (p : Pick) (n : Amount) (slots : Slots) :
    remove p n slots = walk (removeSlot p) (portion p) n slots := by
  induction slots generalizing n with
  | nil => rfl
  | cons slot r ih =>
    rw [walk_cons]
    cases slot with
    | none =>
      rw [remove, ih, portion_none, Amount.sub_ofNat_zero]
      rfl
    | some t =>
      rw [remove, removeSlot]
      split
      case isTrue h => rw [ih, portion_of_skipped h, Amount.sub_ofNat_zero]
      case isFalse h =>
        have hp : p t = true := by simp_all
        dsimp only
        rw [ih, portion_some, if_pos hp, Amount.sub_min_eq]

theorem getElem?_remove (p : Pick) (n : Amount) (slots : Slots) (i : Nat) :
    (remove p n slots).1[i]? =
      slots[i]?.map (removeSlot p (n - .ofNat (sharesBefore (portion p) slots i))) := by
  rw [remove_eq_walk, getElem?_walk]

end Slots

end Bazaar
