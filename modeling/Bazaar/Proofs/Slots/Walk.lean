import Bazaar.Slots
import Mathlib.Algebra.GroupWithZero.Nat
import Mathlib.Data.List.Forall2

/-! # Walks through slots

A walk goes through the slots with an amount. Each slot is changed with what the slots before it have
left of the amount, and it uses up a share of its own. What holds of the change of one slot holds
along the whole walk: what no change alters stays, and what the slots gain adds up to what is used
up. The shares before a slot tell what happens to it.
-/

namespace Bazaar

namespace Amount

variable {a b : Amount}

theorem val_add_of_le (h : a.val + b.val ≤ 4294967295) : (a + b).val = a.val + b.val :=
  Nat.min_eq_left h

theorem val_sub_ofNat (n : Amount) (k : Nat) : (n - ofNat k).val = n.val - k := by
  have := n.le_limit
  rw [val_sub, val_ofNat]
  omega

theorem sub_ofNat_zero (n : Amount) : n - ofNat 0 = n := by
  apply ext
  rw [val_sub_ofNat, Nat.sub_zero]

theorem sub_ofNat_sub_ofNat (n : Amount) (k l : Nat) :
    n - ofNat k - ofNat l = n - ofNat (k + l) := by
  apply ext
  rw [val_sub_ofNat, val_sub_ofNat, val_sub_ofNat, Nat.sub_sub]

theorem sub_min_eq (n m : Amount) : n - min m n = n - ofNat m.val := by
  apply ext
  rw [val_sub_ofNat, val_sub, val_min]
  omega

end Amount

namespace Slots

variable {change : Amount → Option Stack → Option Stack} {share f : Option Stack → Nat}
  {slot : Option Stack} {n : Amount} {i j : Nat} {slots : Slots}

/-- Go through the slots with an amount. Each slot is changed with what is left of the amount, and
uses up its share. Returns what is left at the end. -/
def walk (change : Amount → Option Stack → Option Stack) (share : Option Stack → Nat) :
    Amount → Slots → Slots × Amount
  | n, [] => ([], n)
  | n, slot :: r =>
    let (r, left) := walk change share (n - .ofNat (share slot)) r
    (change n slot :: r, left)

def sharesBefore (share : Option Stack → Nat) (slots : Slots) (i : Nat) : Nat :=
  ((slots.take i).map share).sum

theorem walk_cons (n : Amount) (slot : Option Stack) (r : Slots) :
    walk change share n (slot :: r) =
      (change n slot :: (walk change share (n - .ofNat (share slot)) r).1,
        (walk change share (n - .ofNat (share slot)) r).2) := rfl

/-! ## What is left -/

theorem walk_snd_val (n : Amount) (slots : Slots) :
    (walk change share n slots).2.val = n.val - (slots.map share).sum := by
  induction slots generalizing n with
  | nil => rfl
  | cons slot r ih =>
    rw [walk_cons, List.map_cons, List.sum_cons, ih, Amount.val_sub_ofNat, Nat.sub_sub]

theorem walk_snd_le (n : Amount) (slots : Slots) :
    (walk change share n slots).2.val ≤ n.val := by
  rw [walk_snd_val]
  exact Nat.sub_le _ _

/-! ## From one slot to all -/

theorem forall₂_walk {R : Option Stack → Option Stack → Prop}
    (h : ∀ n slot, R slot (change n slot)) (n : Amount) (slots : Slots) :
    List.Forall₂ R slots (walk change share n slots).1 := by
  induction slots generalizing n with
  | nil => exact .nil
  | cons slot r ih => exact .cons (h n slot) (ih _)

theorem map_walk {α : Type} {g : Option Stack → α}
    (h : ∀ n, ∀ slot ∈ slots, g (change n slot) = g slot) (n : Amount) :
    (walk change share n slots).1.map g = slots.map g := by
  induction slots generalizing n with
  | nil => rfl
  | cons slot r ih =>
    have hrest : ∀ n, ∀ slot ∈ r, g (change n slot) = g slot := by
      intro n a ha
      exact h n a (List.mem_cons_of_mem _ ha)
    rw [walk_cons, List.map_cons, List.map_cons, h n slot List.mem_cons_self, ih hrest]

/-- Where every slot gains what it takes of the amount, the sum gains all that is used up. -/
theorem sum_walk_of_gain (h : ∀ n slot, f (change n slot) = f slot + min (share slot) n.val)
    (n : Amount) (slots : Slots) :
    ((walk change share n slots).1.map f).sum + (walk change share n slots).2.val =
      (slots.map f).sum + n.val := by
  induction slots generalizing n with
  | nil => rfl
  | cons slot r ih =>
    have hrest := ih (n - .ofNat (share slot))
    rw [Amount.val_sub_ofNat] at hrest
    simp only [walk_cons, List.map_cons, List.sum_cons, h n slot]
    omega

theorem sum_walk_of_loss (h : ∀ n slot, f (change n slot) + min (share slot) n.val = f slot)
    (n : Amount) (slots : Slots) :
    ((walk change share n slots).1.map f).sum + n.val =
      (slots.map f).sum + (walk change share n slots).2.val := by
  induction slots generalizing n with
  | nil => rfl
  | cons slot r ih =>
    have hslot := h n slot
    have hrest := ih (n - .ofNat (share slot))
    rw [Amount.val_sub_ofNat] at hrest
    simp only [walk_cons, List.map_cons, List.sum_cons]
    omega

/-- Where changing a slot commutes with a map that keeps the shares, so does the whole walk. -/
theorem walk_map {g : Option Stack → Option Stack}
    (hchange : ∀ n slot, change n (g slot) = g (change n slot))
    (hshare : ∀ slot, share (g slot) = share slot) (n : Amount) (slots : Slots) :
    walk change share n (slots.map g) =
      ((walk change share n slots).1.map g, (walk change share n slots).2) := by
  induction slots generalizing n with
  | nil => rfl
  | cons slot r ih =>
    rw [List.map_cons, walk_cons, walk_cons, hshare, hchange, ih]
    rfl

/-! ## One slot among others -/

theorem getElem?_walk (n : Amount) (slots : Slots) (i : Nat) :
    (walk change share n slots).1[i]? =
      slots[i]?.map (change (n - .ofNat (sharesBefore share slots i))) := by
  induction slots generalizing n i with
  | nil => rfl
  | cons slot r ih =>
    rw [walk_cons]
    cases i with
    | zero =>
      have hnone : sharesBefore share (slot :: r) 0 = 0 := rfl
      rw [hnone, Amount.sub_ofNat_zero]
      rfl
    | succ i =>
      have hsum : sharesBefore share (slot :: r) (i + 1) = share slot + sharesBefore share r i := by
        simp [sharesBefore]
      rw [hsum, ← Amount.sub_ofNat_sub_ofNat]
      exact ih _ i

theorem sharesBefore_add_le (hj : slots[j]? = some slot) (hji : j < i) :
    sharesBefore share slots j + share slot ≤ sharesBefore share slots i := by
  obtain ⟨d, rfl⟩ := Nat.exists_eq_add_of_le (Nat.succ_le_of_lt hji)
  simp only [sharesBefore, Nat.succ_eq_add_one, List.take_add, List.take_add_one, hj,
    Option.toList_some, List.map_append, List.sum_append, List.map_cons, List.map_nil,
    List.sum_cons, List.sum_nil]
  omega

theorem lt_of_left (hj : slots[j]? = some slot) (hji : j < i)
    (hleft : 0 < (n - .ofNat (sharesBefore share slots i)).val) :
    share slot < (n - .ofNat (sharesBefore share slots j)).val := by
  have hle : sharesBefore share slots j + share slot ≤ sharesBefore share slots i :=
    sharesBefore_add_le hj hji
  rw [Amount.val_sub_ofNat] at hleft ⊢
  omega

end Slots

end Bazaar
