import Mathlib.Data.List.ReduceOption
import Bazaar.Proofs.Currency.Worth
import Bazaar.Proofs.Slots.Room

/-! # Payments and their change

A payment out of a list of slots fails when the slots are not worth it, and when the change of the
high currency that it breaks does not fit.
-/

namespace Bazaar.Currency

open Slots

variable {c : Currency} {n : Amount} {s : Stack} {slots : Slots}

theorem worth_cons (c : Currency) (slot : Option Stack) (slots : Slots) :
    c.worth (slot :: slots) = c.worth [slot] + c.worth slots := by
  simp only [worth, total_cons, total_nil, Nat.add_zero, Nat.add_mul]
  omega

theorem isHigh_eq_false_of_isLow (hd : c.Distinct) (hl : c.isLow s = true) :
    c.isHigh s = false := by
  cases hc : c.high with
  | none => simp [isHigh, hc]
  | some h =>
    have hne := hd h hc
    simp only [isHigh, hc, isLow, Stack.similar, decide_eq_true_eq, decide_eq_false_iff_not]
      at hl hne ⊢
    exact fun hs => hne (hs.symm.trans hl)

theorem val_valueOf (hd : c.Distinct) (s : Stack) :
    (c.valueOf s).val = min (c.worth [some s]) 4294967295 := by
  have hlimit := s.amount.le_limit
  unfold valueOf
  split
  case isTrue hl =>
    have hh := isHigh_eq_false_of_isLow hd hl
    simp [worth, hl, hh, hlimit]
  case isFalse hl =>
    have hl : c.isLow s = false := by simpa using hl
    cases hc : c.high with
    | none => simp [worth, hl, isHigh, hc]
    | some h =>
      by_cases hs : s.similar h.item = true
      · simp [worth, hl, isHigh, hc, hs, highValue, Amount.val_mul]
      · simp [worth, hl, isHigh, hc, hs]

/-- The value of a list of slots is its worth as far as it is in range. -/
theorem val_totalValue (hd : c.Distinct) (slots : Slots) :
    (c.totalValue slots).val = min (c.worth slots) 4294967295 := by
  have hfold : ∀ a : Amount, (slots.reduceOption.foldl (fun n s => n + c.valueOf s) a).val =
      min (a.val + c.worth slots) 4294967295 := by
    induction slots with
    | nil =>
      intro a
      have ha := a.le_limit
      simp only [List.reduceOption_nil, List.foldl_nil, worth, total_nil]
      omega
    | cons slot slots ih =>
      intro a
      rw [worth_cons]
      cases slot with
      | none =>
        rw [List.reduceOption_cons_of_none, ih]
        simp [worth]
      | some s =>
        rw [List.reduceOption_cons_of_some, List.foldl_cons, ih, Amount.val_add, val_valueOf hd]
        omega
  have hzero := hfold 0
  rwa [Amount.val_zero, Nat.zero_add] at hzero

/-- The low currency that is too much when whole items of high currency pay an amount. -/
def highChange (h : HighCurrency) (n : Amount) : Amount :=
  n.ceilDiv h.value * h.value - n

/-- The change of a payment fits into the slots that low and high currency were taken out of. -/
def ChangeFits (c : Currency) (n : Amount) (slots : Slots) : Prop :=
  ∀ h, c.high = some h →
    (highChange h (remove c.isLow n slots).2).val ≤
      room c.item (remove c.isHigh ((remove c.isLow n slots).2.ceilDiv h.value)
        (remove c.isLow n slots).1).1

theorem total_isHigh_remove_isLow (hd : c.Distinct) (n : Amount) (slots : Slots) :
    total c.isHigh (remove c.isLow n slots).1 = total c.isHigh slots := by
  refine total_remove_of_disjoint c.kindOnly_isHigh.amountFree (fun s hl => ?_) n slots
  exact isHigh_eq_false_of_isLow hd hl

theorem ceilDiv_le_iff {a b : Amount} (hb : 0 < b.val) (m : Nat) :
    (a.ceilDiv b).val ≤ m ↔ a.val ≤ m * b.val := by
  obtain ⟨hlo, hup⟩ := Amount.ceilDiv_mul_bounds (a := a) hb
  constructor
  · intro h
    exact Nat.le_trans hlo (Nat.mul_le_mul_right _ h)
  · intro h
    refine Nat.le_of_not_lt fun hlt => ?_
    have hle : (m + 1) * b.val ≤ (a.ceilDiv b).val * b.val := Nat.mul_le_mul_right _ (by omega)
    rw [Nat.add_mul] at hle
    omega

theorem highChange_zero_val (h : HighCurrency) : (highChange h 0).val = 0 := by
  have hdiv : (0 + h.value.val - 1) / h.value.val = 0 := by
    rcases Nat.eq_zero_or_pos h.value.val with hv | hv
    · rw [hv, Nat.div_zero]
    · exact Nat.div_eq_of_lt (by omega)
  rw [highChange, Amount.val_sub, Amount.val_mul, Amount.ceilDiv, Amount.val_ofNat,
    Amount.val_zero, hdiv]
  simp

/-- A withdrawal fails exactly when the slots are not worth it or the change does not fit. -/
theorem withdraw?_eq_none_iff (hd : c.Distinct) :
    c.withdraw? n slots = none ↔ c.worth slots < n.val ∨ ¬ c.ChangeFits n slots := by
  have hshort := remove_snd_val c.isLow n slots
  have hhigh := total_isHigh_remove_isLow hd n slots
  rw [withdraw?_eq]
  unfold ChangeFits worth
  generalize remove c.isLow n slots = removed at hshort hhigh ⊢
  obtain ⟨rest, short⟩ := removed
  dsimp only at hshort hhigh ⊢
  by_cases hs : short = 0
  · -- Low currency alone pays, and there is no change.
    subst hs
    rw [Amount.val_zero] at hshort
    simp only [if_true, reduceCtorEq, false_iff, highChange_zero_val, Nat.zero_le, implies_true,
      not_true_eq_false, or_false]
    omega
  rw [if_neg hs]
  have hpos : 0 < short.val := Amount.val_pos_iff.2 hs
  cases hc : c.high with
  | none =>
    have hzero : c.highValue = 0 := by simp [highValue, hc]
    simp only [hzero, true_iff]
    omega
  | some h =>
    rw [highValue_eq hc]
    by_cases hv : h.value = 0
    · simp only [hv, if_true, true_iff, Amount.val_zero]
      omega
    have hvpos : 0 < h.value.val := Amount.val_pos_iff.2 hv
    -- High currency pays what is short, unless there is too little of it.
    have hmissing : (remove c.isHigh (short.ceilDiv h.value) rest).2 = 0 ↔
        n.val ≤ total c.isLow slots + total c.isHigh slots * h.value.val := by
      rw [remove_snd_eq_zero_iff, ceilDiv_le_iff hvpos, hhigh]
      omega
    have hleft : ∀ slots', (add (c.lowStack (highChange h short)) slots').2 = 0 ↔
        (highChange h short).val ≤ room c.item slots' := fun _ => add_snd_eq_zero_iff
    simp only [Option.some.injEq, forall_eq', if_neg hv]
    rw [← hleft, ← Nat.not_le, ← hmissing]
    by_cases hm : (remove c.isHigh (short.ceilDiv h.value) rest).2 = 0
    · simp only [hm, not_true_eq_false, ne_eq, if_false, false_or, highChange]
      split <;> simp_all
    · simp only [hm, not_false_eq_true, ne_eq, if_true, true_or]

end Bazaar.Currency
