import Bazaar.Proofs.Currency.Change
import Bazaar.Proofs.Slots.Spared
import Mathlib.Algebra.Order.Floor.Div

/-! # Exact deposits and withdrawals

A deposit adds its whole amount to the worth of the slots, up to what is left over because there is
no room. A withdrawal takes exactly its amount, or it fails and takes nothing, because the slots are
not worth the amount or there is no room for the change. Whatever is no currency stays in its slot,
except for empty stacks, whose slots are as good as free.
-/

namespace Bazaar.Currency

open Slots

variable {c : Currency} {n : Amount} {slots after : Slots}

def isOther (c : Currency) : Pick := fun s => !c.isMoney s

theorem kindOnly_isOther (c : Currency) : KindOnly c.isOther := by
  intro s t h
  simp [isOther, isMoney, c.kindOnly_isLow s t h, c.kindOnly_isHigh s t h]

theorem isOther_lowStack (c : Currency) (n : Amount) : c.isOther (c.lowStack n) = false := by
  have hlow : c.isOther (c.lowStack n) = c.isOther c.item := c.kindOnly_isOther _ _ rfl
  rw [hlow, isOther, isMoney_item, Bool.not_true]

theorem isOther_highItem {h : HighCurrency} (hc : c.high = some h) (n : Amount) :
    c.isOther (h.item.withAmount n) = false := by
  have hhigh : c.isOther (h.item.withAmount n) = c.isOther h.item := c.kindOnly_isOther _ _ rfl
  rw [hhigh, isOther, isMoney_high hc, Bool.not_true]

theorem isOther_eq_false_of_isLow {s : Stack} (h : c.isLow s = true) : c.isOther s = false := by
  simp [isOther, isMoney, h]

theorem isOther_eq_false_of_isHigh {s : Stack} (h : c.isHigh s = true) : c.isOther s = false := by
  simp [isOther, isMoney, h]

/-! ## Deposits -/

theorem exists_deposit_eq_add (c : Currency) (n : Amount) (slots : Slots) :
    ∃ m mid, c.deposit n slots = add (c.lowStack m) mid ∧ slots.Spares c.isOther mid ∧
      (mid = slots ∨ ∃ h, c.high = some h ∧ 0 < h.value.val ∧ h.minCost.val < n.val) := by
  unfold deposit
  split
  case h_1 => exact ⟨n, slots, rfl, .refl _ _, Or.inl rfl⟩
  case h_2 h hh =>
    obtain ⟨hc, hvalue, hcost⟩ := highFor?_eq_some_iff.1 hh
    exact ⟨_, _, rfl, spares_add c.kindOnly_isOther (isOther_highItem hc _) slots,
      Or.inr ⟨h, hc, hvalue, hcost⟩⟩

theorem total_isHigh_add_lowStack (hd : c.Distinct) (n : Amount) (slots : Slots) :
    total c.isHigh (add (c.lowStack n) slots).1 = total c.isHigh slots := by
  have hlow : c.isHigh (c.lowStack n) = false :=
    isHigh_eq_false_of_isLow hd (by simp [isLow, Stack.similar, lowStack, Stack.withAmount])
  rw [total_add_eq c.kindOnly_isHigh, hlow]
  simp

/-- A deposit conserves worth: what it does not add to the slots is left over, and is no more than
the amount. It leaves everything else alone, adds high currency only to amounts above the minimum,
and leaves something over only if no slot is free and no low currency has space. -/
theorem deposit_conserves (hd : c.Distinct) (n : Amount) (slots : Slots) :
    (c.deposit n slots).2.val ≤ n.val ∧
    c.worth (c.deposit n slots).1 + (c.deposit n slots).2.val = c.worth slots + n.val ∧
    slots.Spares c.isOther (c.deposit n slots).1 ∧
    (total c.isHigh (c.deposit n slots).1 ≠ total c.isHigh slots →
      ∃ h, c.high = some h ∧ 0 < h.value.val ∧ h.minCost.val < n.val) ∧
    (0 < (c.deposit n slots).2.val → ∀ slot ∈ (c.deposit n slots).1,
      occupied slot = true ∧ ∀ s, slot = some s → c.isLow s = true → s.freeSpace.val = 0) := by
  obtain ⟨low, high, hn, -⟩ := c.deposit_coins n slots
  have hworth := worth_deposit hd n slots
  obtain ⟨m, mid, hdeposit, hspares, hmid⟩ := c.exists_deposit_eq_add n slots
  rw [hdeposit] at hn hworth ⊢
  refine ⟨by omega, hworth, ?_, ?_, ?_⟩
  · exact hspares.trans (spares_add c.kindOnly_isOther (c.isOther_lowStack m) mid)
  · intro hadded
    rw [total_isHigh_add_lowStack hd] at hadded
    rcases hmid with rfl | hhigh
    · exact absurd rfl hadded
    · exact hhigh
  · intro hleft slot hslot
    obtain ⟨hocc, hfull⟩ := full_of_left hleft hslot
    exact ⟨hocc, fun s hs hlow => hfull s hs hlow⟩

def narrowChest : Slots :=
  [some (.plain "bread" 0), some (.plain "emerald" 60), some (.plain "stone" 1)]

theorem deposit_conserves_narrowChest :
    standard.Distinct ∧ (standard.deposit 700 narrowChest).2 = 120 ∧
    standard.worth (standard.deposit 700 narrowChest).1 + 120 = standard.worth narrowChest + 700 ∧
    (standard.deposit 700 narrowChest).1[2]? = some (some (.plain "stone" 1)) ∧
    (∀ slot ∈ (standard.deposit 700 narrowChest).1,
      occupied slot = true ∧
        ∀ s, slot = some s → standard.isLow s = true → s.freeSpace.val = 0) := by
  have h := deposit_conserves distinct_standard 700 narrowChest
  have hleft : (standard.deposit 700 narrowChest).2 = 120 := by decide
  rw [hleft] at h
  exact ⟨distinct_standard, hleft, h.2.1, h.2.2.1 2 _ rfl rfl rfl, h.2.2.2.2 (by decide)⟩

/-! ## Withdrawals -/

/-- What low currency does not cover of an amount. -/
def debt (c : Currency) (n : Amount) (slots : Slots) : Nat := n.val - total c.isLow slots

/-- What is too much when whole items of high currency pay a debt. -/
def changeOf (h : HighCurrency) (debt : Nat) : Nat := debt ⌈/⌉ h.value.val * h.value.val - debt

/-- The slots after all low currency and as much high currency as a debt takes were taken out. -/
def emptied (c : Currency) (h : HighCurrency) (debt : Nat) (slots : Slots) : Slots :=
  (remove c.isHigh (.ofNat (debt ⌈/⌉ h.value.val)) (slots.without c.isLow)).1

/-- The slots after an attempt to pay an amount out of them. -/
def afterPayment (c : Currency) (n : Amount) (slots : Slots) : Slots := (c.withdraw n slots).2

theorem ceilDiv_eq (a b : Amount) : a.ceilDiv b = .ofNat (a.val ⌈/⌉ b.val) := by
  rw [Amount.ceilDiv, Nat.ceilDiv_eq_add_pred_div]

theorem val_ceilDiv_eq (a b : Amount) : (a.ceilDiv b).val = a.val ⌈/⌉ b.val := by
  rcases Nat.eq_zero_or_pos b.val with hb | hb
  · rw [ceilDiv_eq, hb, ceilDiv_zero, Amount.val_ofNat, Nat.zero_min]
  · rw [Amount.val_ceilDiv hb, Nat.ceilDiv_eq_add_pred_div]

theorem changeOf_zero (h : HighCurrency) : changeOf h 0 = 0 := by
  simp [changeOf]

/-- The change is cut down if the high currency that pays an amount is worth more than amounts
are. -/
theorem val_highChange_eq_min (h : HighCurrency) (n : Amount) :
    (highChange h n).val = min (n.val ⌈/⌉ h.value.val * h.value.val) 4294967295 - n.val := by
  rw [highChange, Amount.val_sub, Amount.val_mul, val_ceilDiv_eq]

theorem val_highChange {h : HighCurrency} (hn : n.val + h.value.val ≤ 4294967295) :
    (highChange h n).val = changeOf h n.val := by
  rw [val_highChange_eq_min, changeOf]
  rcases Nat.eq_zero_or_pos h.value.val with hv | hv
  · simp [hv]
  · have hbounds := Amount.ceilDiv_mul_bounds (a := n) hv
    rw [val_ceilDiv_eq] at hbounds
    omega

theorem changeFits_iff (hn : n.val + c.highValue ≤ 4294967295) :
    c.ChangeFits n slots ↔ ∀ h, c.high = some h →
      changeOf h (c.debt n slots) ≤ room c.item (c.emptied h (c.debt n slots) slots) := by
  have hshort : (remove c.isLow n slots).2.val = c.debt n slots := remove_snd_val c.isLow n slots
  unfold ChangeFits
  refine forall_congr' fun h => forall_congr' fun hc => ?_
  rw [highValue_eq hc] at hn
  have hdebt : c.debt n slots ≤ n.val := Nat.sub_le _ _
  rw [val_highChange (by omega), ceilDiv_eq, hshort]
  rcases Nat.eq_zero_or_pos (c.debt n slots) with hzero | hpos
  · simp [hzero, changeOf_zero]
  · -- Low currency is short, so all of it is taken.
    have hall : (remove c.isLow n slots).1 = slots.without c.isLow :=
      remove_of_total_le (by unfold debt at hpos; omega)
    rw [hall, emptied]

theorem spares_withdraw? (h : c.withdraw? n slots = some after) : slots.Spares c.isOther after := by
  have hlow : slots.Spares c.isOther (remove c.isLow n slots).1 :=
    spares_remove (fun _ => isOther_eq_false_of_isLow) n slots
  rcases withdraw?_eq_some h with hl | ⟨hi, low, short, high, -, -, hl, hh, ha⟩
  · rwa [hl] at hlow
  · rw [hl] at hlow
    have hhigh : low.Spares c.isOther (remove c.isHigh (short.ceilDiv hi.value) low).1 :=
      spares_remove (fun _ => isOther_eq_false_of_isHigh) _ low
    rw [hh] at hhigh
    have hchange := spares_add c.kindOnly_isOther
      (c.isOther_lowStack (short.ceilDiv hi.value * hi.value - short)) high
    rw [ha] at hchange
    exact (hlow.trans hhigh).trans hchange

/-- A payment is exact or none at all: it lowers the worth by its amount and leaves everything else
alone, or it fails and changes nothing. It fails exactly when the slots are not worth the amount or
the change has no room in the slots that the payment empties. -/
theorem withdrawal_exact (hd : c.Distinct) (n : Amount) (slots : Slots)
    (hn : n.val + c.highValue ≤ 4294967295) :
    (c.withdraw? n slots ≠ none →
      c.worth (c.afterPayment n slots) + n.val = c.worth slots ∧
        slots.Spares c.isOther (c.afterPayment n slots)) ∧
    (c.withdraw? n slots = none → c.afterPayment n slots = slots) ∧
    (c.withdraw? n slots = none ↔ c.worth slots < n.val ∨ ∃ h, c.high = some h ∧
      room c.item (c.emptied h (c.debt n slots) slots) < changeOf h (c.debt n slots)) := by
  refine ⟨?_, ?_, ?_⟩
  · intro hpaid
    obtain ⟨after, hafter⟩ := Option.ne_none_iff_exists'.1 hpaid
    rw [afterPayment, withdraw_eq, hafter, Option.getD_some]
    exact ⟨worth_withdraw? hd hafter hn, spares_withdraw? hafter⟩
  · intro hnone
    rw [afterPayment, withdraw_eq, hnone, Option.getD_none]
  · rw [withdraw?_eq_none_iff hd, changeFits_iff hn]
    simp

def breadChest : Slots := [some (.plain "bread" 0), some (.plain "emerald_block" 1)]

theorem withdrawal_exact_breadChest :
    standard.Distinct ∧ (5 : Amount).val + standard.highValue ≤ 4294967295 ∧
    standard.withdraw? 5 breadChest ≠ none ∧
    standard.worth (standard.afterPayment 5 breadChest) + 5 = standard.worth breadChest ∧
    standard.withdraw? 10 breadChest = none ∧
    standard.afterPayment 10 breadChest = breadChest := by
  have hpaid : standard.withdraw? 5 breadChest ≠ none := by decide
  have hnone : standard.withdraw? 10 breadChest = none := by decide
  exact ⟨distinct_standard, by decide, hpaid,
    ((withdrawal_exact distinct_standard 5 breadChest (by decide)).1 hpaid).1, hnone,
    (withdrawal_exact distinct_standard 10 breadChest (by decide)).2.1 hnone⟩

/-- Not everything that is no currency stays in its slot: the change takes the slot of the empty
stack. -/
theorem exists_unspared_empty_stack :
    ¬ ∀ (c : Currency) (n : Amount) (slots : Slots), c.Distinct →
      n.val + c.highValue ≤ 4294967295 → c.withdraw? n slots ≠ none →
      ∀ (i : Nat) (s : Stack), slots[i]? = some (some s) → c.isOther s = true →
        (c.afterPayment n slots)[i]? = some (some s) := by
  intro h
  have := h standard 5 breadChest distinct_standard (by decide) (by decide) 0 _ rfl rfl
  exact absurd this (by decide)

end Bazaar.Currency
