import Bazaar.Tax
import Mathlib.Data.Rat.Floor

/-! # Rounding after tax

Tax is rounded before it is taken off an amount. What remains is the untaxed share, rounded the
other way. At rates above a hundred percent nothing is untaxed, and nothing remains.
-/

namespace Bazaar.TaxPolicy

variable {gross gross' rate rate' : Amount} {p : TaxPolicy}

/-- What a rate leaves of an amount, before rounding. -/
def untaxed (gross rate : Amount) : ℚ := (gross.val * (100 - min rate.val 100) : ℕ) / 100

theorem mul_untaxed (gross rate : Amount) :
    gross.val * (100 - min rate.val 100) = gross.val * 100 - gross.val * rate.val := by
  have hcut : 100 - min rate.val 100 = 100 - rate.val := by omega
  rw [hcut, Nat.mul_sub]

theorem val_net (p : TaxPolicy) (gross : Amount) : (p.net gross).val = gross.val - p.taxOn gross :=
  Nat.min_eq_left (Nat.le_trans (Nat.sub_le _ _) gross.le_limit)

theorem net_of_no_tax (h : p.percent = 0 ∨ gross = 0) : p.net gross = gross := by
  have hzero : gross.val * p.percent.val = 0 := by
    rcases h with h | h <;> simp [h]
  apply Amount.ext
  rw [val_net, taxOn, hzero]
  split <;> omega

theorem val_net_roundUp (gross rate : Amount) :
    (net ⟨rate, true⟩ gross).val = gross.val * (100 - min rate.val 100) / 100 := by
  rw [val_net, taxOn, mul_untaxed]
  simp only [if_true]
  omega

theorem val_net_roundDown (gross rate : Amount) :
    (net ⟨rate, false⟩ gross).val = (gross.val * (100 - min rate.val 100) + 99) / 100 := by
  rw [val_net, taxOn, mul_untaxed]
  simp only [if_false, Bool.false_eq_true]
  omega

theorem floor_div_hundred (k : ℕ) : ⌊(k : ℚ) / 100⌋ = (k / 100 : ℕ) := by
  have h := Rat.floor_natCast_div_natCast k 100
  push_cast at h ⊢
  exact h

theorem ceil_div_hundred (k : ℕ) : ⌈(k : ℚ) / 100⌉ = ((k + 99) / 100 : ℕ) := by
  have h := Rat.ceil_natCast_div_natCast k 100
  push_cast at h ⊢
  omega

theorem net_roundUp_eq_floor (gross rate : Amount) :
    ((net ⟨rate, true⟩ gross).val : ℤ) = ⌊untaxed gross rate⌋ := by
  rw [val_net_roundUp, untaxed, floor_div_hundred]

theorem net_roundDown_eq_ceil (gross rate : Amount) :
    ((net ⟨rate, false⟩ gross).val : ℤ) = ⌈untaxed gross rate⌉ := by
  rw [val_net_roundDown, untaxed, ceil_div_hundred]

/-! ## Comparisons -/

theorem net_le_gross (p : TaxPolicy) (gross : Amount) : p.net gross ≤ gross := by
  rw [Amount.le_iff, val_net]
  exact Nat.sub_le _ _

theorem net_mono_of_untaxed_le
    (h : gross.val * (100 - min rate.val 100) ≤ gross'.val * (100 - min rate'.val 100))
    (up : Bool) : net ⟨rate, up⟩ gross ≤ net ⟨rate', up⟩ gross' := by
  rw [Amount.le_iff]
  cases up with
  | true =>
    rw [val_net_roundUp, val_net_roundUp]
    exact Nat.div_le_div_right h
  | false =>
    rw [val_net_roundDown, val_net_roundDown]
    exact Nat.div_le_div_right (Nat.add_le_add_right h 99)

theorem net_mono (h : gross ≤ gross') (p : TaxPolicy) : p.net gross ≤ p.net gross' :=
  net_mono_of_untaxed_le (Nat.mul_le_mul_right _ h) p.roundUp

theorem net_anti (h : rate ≤ rate') (up : Bool) (gross : Amount) :
    net ⟨rate', up⟩ gross ≤ net ⟨rate, up⟩ gross := by
  rw [Amount.le_iff] at h
  apply net_mono_of_untaxed_le
  apply Nat.mul_le_mul_left
  omega

theorem net_roundDown_bounds (gross rate : Amount) :
    (net ⟨rate, true⟩ gross).val ≤ (net ⟨rate, false⟩ gross).val ∧
    (net ⟨rate, false⟩ gross).val ≤ (net ⟨rate, true⟩ gross).val + 1 := by
  rw [val_net_roundUp, val_net_roundDown]
  omega

end Bazaar.TaxPolicy
