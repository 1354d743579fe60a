import Bazaar.Inventory
import Bazaar.Proofs.Slots.Total

/-! # What a payout adds to an inventory

A gesture pays a result onto the cursor, into an empty hotbar slot or into the storage. Each of
these payouts adds the whole result to the inventory, unless the inventory refuses it.
-/

namespace Bazaar.Inventory

open Slots

variable {q : Pick} {i i' : Inventory} {slots : Slots} {slot : Option Stack} {result : Stack}
  {payout : Payout}

def totalOf (q : Pick) (i : Inventory) : Nat := i.storage.total q + portion q i.cursor

/-- A payout that is meant to add a result to an inventory. -/
inductive Payable (i : Inventory) (result : Stack) : Payout → Prop
  | cursor {payout : Payout} (h : i.cursorPayout? result = some payout) : Payable i result payout
  | hotbar {payout : Payout} (button : Option UInt8)
      (h : i.hotbarPayout? button result = some payout) : Payable i result payout
  | storage {slots : Slots} (h : i.storage.addInClientOrder result = (slots, 0)) :
      Payable i result (.storage slots)

theorem setStorage_eq_ok_iff :
    i.setStorage slots = .ok i' ↔ i.locked = false ∧ i' = { i with storage := slots } := by
  unfold setStorage
  cases i.locked <;> simp [eq_comm]

theorem setCursor_eq_ok_iff :
    i.setCursor slot = .ok i' ↔ i.locked = false ∧ i' = { i with cursor := nonEmpty? slot } := by
  unfold setCursor
  cases i.locked <;> simp [eq_comm]

theorem cursorPayout?_eq_some (h : i.cursorPayout? result = some payout) :
    i.cursor = none ∧ payout = .cursor result ∨
      ∃ c, i.cursor = some c ∧ c.similar result = true ∧
        c.amount.val + result.amount.val ≤ c.maxSize.val ∧
        payout = .cursor (c.withAmount (c.amount + result.amount)) := by
  unfold cursorPayout? at h
  split at h
  case h_1 hc => exact Or.inl ⟨hc, (Option.some.inj h).symm⟩
  case h_2 c hc =>
    split at h
    case isTrue hfit =>
      simp only [Bool.and_eq_true, decide_eq_true_eq] at hfit
      exact Or.inr ⟨c, hc, hfit.1, hfit.2, (Option.some.inj h).symm⟩
    case isFalse => cases h

theorem hotbarPayout?_eq_some {button : Option UInt8}
    (h : i.hotbarPayout? button result = some payout) :
    ∃ index, i.storage[index]? = some none ∧ payout = .slot index result := by
  unfold hotbarPayout? at h
  split at h
  · cases h
  case h_2 b =>
    split at h
    case isTrue hfree =>
      simp only [Bool.and_eq_true, decide_eq_true_eq] at hfree
      exact ⟨_, hfree.2, (Option.some.inj h).symm⟩
    case isFalse => cases h

theorem totalOf_pay_cursor (hq : KindOnly q) (h : i.cursorPayout? result = some payout)
    (hp : i.pay payout = .ok i') : i'.totalOf q = i.totalOf q + portion q (some result) := by
  rcases cursorPayout?_eq_some h with ⟨hc, rfl⟩ | ⟨c, hc, hs, hfit, rfl⟩
  · obtain ⟨-, rfl⟩ := setCursor_eq_ok_iff.1 hp
    simp [totalOf, hc, portion_nonEmpty?]
  · obtain ⟨-, rfl⟩ := setCursor_eq_ok_iff.1 hp
    have hsum : (c.amount + result.amount).val = c.amount.val + result.amount.val :=
      Nat.min_eq_left (Nat.le_trans hfit c.maxSize.le_limit)
    simp only [totalOf, portion_nonEmpty?, portion_withAmount hq.amountFree, hsum, hc, portion_some,
      hq.eq_of_similar hs]
    split <;> omega

theorem totalOf_pay_hotbar {button : Option UInt8} (h : i.hotbarPayout? button result = some payout)
    (hp : i.pay payout = .ok i') : i'.totalOf q = i.totalOf q + portion q (some result) := by
  obtain ⟨index, hfree, rfl⟩ := hotbarPayout?_eq_some h
  have hlt : index < i.storage.length := (List.getElem?_eq_some_iff.1 hfree).1
  rw [pay, if_pos hlt] at hp
  obtain ⟨-, rfl⟩ := setStorage_eq_ok_iff.1 hp
  simp only [totalOf, total_set _ hfree]
  omega

theorem totalOf_pay_storage (hq : KindOnly q) (h : i.storage.addInClientOrder result = (slots, 0))
    (hp : i.pay (.storage slots) = .ok i') :
    i'.totalOf q = i.totalOf q + portion q (some result) := by
  obtain ⟨-, rfl⟩ := setStorage_eq_ok_iff.1 hp
  have hadd := total_addInClientOrder hq result i.storage
  rw [h, Amount.val_zero, ite_self, Nat.add_zero, ← portion_some] at hadd
  simp only [totalOf, hadd]
  omega

theorem totalOf_pay (hq : KindOnly q) (h : i.Payable result payout) (hp : i.pay payout = .ok i') :
    i'.totalOf q = i.totalOf q + portion q (some result) := by
  cases h with
  | cursor h => exact totalOf_pay_cursor hq h hp
  | hotbar button h => exact totalOf_pay_hotbar h hp
  | storage h => exact totalOf_pay_storage hq h hp

end Bazaar.Inventory
