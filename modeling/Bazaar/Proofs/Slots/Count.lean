import Mathlib.Data.List.ReduceOption
import Bazaar.Proofs.Slots.Total

/-! # Counting in slot lists

Counting adds amounts up within their range. It gives the total of a pick, and it fails exactly when
the total is out of range. A total out of range is enough for every amount.
-/

namespace Bazaar

def Amount.checked (n : Nat) : Except Slots.CountError Amount :=
  match ofNat? n with
  | some n => .ok n
  | none => .error .overflow

theorem Amount.checked_of_le {n : Nat} (h : n ≤ 4294967295) : checked n = .ok ⟨n, h⟩ := by
  simp [checked, ofNat?, h]

theorem Amount.checked_of_lt {n : Nat} (h : 4294967295 < n) : checked n = .error .overflow := by
  simp [checked, ofNat?, Nat.not_le.2 h]

theorem Amount.checked_val (a : Amount) : checked a.val = .ok a := checked_of_le a.le_limit

namespace Slots

variable {p : Pick} {n m : Amount} {slots : Slots}

/-- Adding one by one checks the whole sum: once a part of it is out of range, so is the rest. -/
theorem foldlM_checked (n : Amount) (picked : List Stack) :
    picked.foldlM (fun n s => Amount.checked (n.val + s.amount.val)) n =
      Amount.checked (n.val + (picked.map (·.amount.val)).sum) := by
  induction picked generalizing n with
  | nil => exact (Amount.checked_val n).symm
  | cons s picked ih =>
    rw [List.foldlM_cons, List.map_cons, List.sum_cons]
    by_cases h : n.val + s.amount.val ≤ 4294967295
    · rw [Amount.checked_of_le h]
      exact (ih _).trans (congrArg Amount.checked (Nat.add_assoc _ _ _))
    · rw [Amount.checked_of_lt (by omega), Amount.checked_of_lt (by omega)]
      rfl

theorem sum_filter_eq_total (p : Pick) (slots : Slots) :
    ((slots.reduceOption.filter p).map (·.amount.val)).sum = total p slots := by
  induction slots with
  | nil => rfl
  | cons slot r ih =>
    rw [total_cons, ← ih]
    cases slot with
    | none => rw [List.reduceOption_cons_of_none, portion_none, Nat.zero_add]
    | some s =>
      rw [List.reduceOption_cons_of_some, List.filter_cons, portion_some]
      split <;> simp

theorem count_eq_checked (p : Pick) (slots : Slots) :
    count p slots = Amount.checked (total p slots) := by
  have h := foldlM_checked 0 (slots.reduceOption.filter p)
  rw [sum_filter_eq_total, Amount.val_zero, Nat.zero_add] at h
  exact h

theorem count_eq_ok_iff : count p slots = .ok m ↔ m.val = total p slots := by
  rw [count_eq_checked]
  rcases Nat.lt_or_ge 4294967295 (total p slots) with h | h
  · have := m.le_limit
    rw [Amount.checked_of_lt h]
    simp only [reduceCtorEq, false_iff]
    omega
  · rw [Amount.checked_of_le h, Except.ok.injEq, Amount.ext_iff]
    exact eq_comm

theorem count_eq_error_iff : count p slots = .error .overflow ↔ 4294967295 < total p slots := by
  rw [count_eq_checked]
  rcases Nat.lt_or_ge 4294967295 (total p slots) with h | h
  · rw [Amount.checked_of_lt h]
    simp only [h]
  · rw [Amount.checked_of_le h]
    simp only [reduceCtorEq, false_iff]
    omega

theorem holds_iff : holds p n slots = true ↔ n.val ≤ total p slots := by
  unfold holds
  rw [count_eq_checked]
  by_cases h : total p slots ≤ 4294967295
  · rw [Amount.checked_of_le h]
    simp [Amount.le_iff]
  · have := n.le_limit
    rw [Amount.checked_of_lt (by omega)]
    simp only [true_iff]
    omega

end Slots

end Bazaar
