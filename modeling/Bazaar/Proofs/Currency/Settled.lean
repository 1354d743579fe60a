import Bazaar.Currency
import Bazaar.Proofs.Slots.Count
import Bazaar.Proofs.Slots.Settled

/-! # Empty stacks beside money

Nothing that is done with slots sees an empty stack. What counts items or money gives the same on
settled slots, and what moves them may be done before or after settling. Payments and deposits chain
several such operations, so the slots between them settle to the same as well.
-/

namespace Bazaar

open Slots

variable {s : Stack}

/-! ## Counting -/

namespace Slots

theorem count_settled (pick : Pick) (slots : Slots) :
    slots.settled.count pick = slots.count pick := by
  rw [count_eq_checked, count_eq_checked, total_settled]

theorem holds_settled (pick : Pick) (n : Amount) (slots : Slots) :
    slots.settled.holds pick n = slots.holds pick n := by
  rw [holds, holds, count_settled]

end Slots

namespace Currency

theorem valueOf_of_isEmpty (c : Currency) (h : s.isEmpty = true) : c.valueOf s = 0 := by
  have hz : s.amount = 0 := by simpa [Stack.isEmpty] using h
  unfold valueOf
  split
  · exact hz
  split
  · split
    · rw [hz, Amount.ext_iff, Amount.val_mul, Amount.val_zero, Nat.zero_mul]
      rfl
    · rfl
  · rfl

theorem totalValue_settled (c : Currency) (slots : Slots) :
    c.totalValue slots.settled = c.totalValue slots := by
  have hzero : ∀ a : Amount, a + 0 = a := fun a =>
    Amount.ext (Nat.min_eq_left a.le_limit)
  have hfold : ∀ a : Amount, slots.settled.reduceOption.foldl (fun n s => n + c.valueOf s) a =
      slots.reduceOption.foldl (fun n s => n + c.valueOf s) a := by
    induction slots with
    | nil => exact fun _ => rfl
    | cons slot slots ih =>
      intro a
      cases slot with
      | none => exact ih a
      | some s =>
        cases hs : s.isEmpty with
        | true =>
          rw [settled_cons, nonEmpty?_of_isEmpty hs, List.reduceOption_cons_of_none, ih,
            List.reduceOption_cons_of_some, List.foldl_cons, c.valueOf_of_isEmpty hs, hzero]
        | false =>
          rw [settled_cons, nonEmpty?_of_not_isEmpty hs, List.reduceOption_cons_of_some,
            List.reduceOption_cons_of_some, List.foldl_cons, List.foldl_cons, ih]
  exact hfold 0

/-! ## Deposits and payments -/

theorem deposit_settled (c : Currency) (n : Amount) (slots : Slots) :
    c.deposit n slots.settled = ((c.deposit n slots).1.settled, (c.deposit n slots).2) := by
  unfold deposit
  split
  · exact add_settled _ _
  · simp only [add_settled]

theorem withdraw?_settled (c : Currency) (n : Amount) (slots : Slots) :
    c.withdraw? n slots.settled = (c.withdraw? n slots).map settled := by
  rw [withdraw?_eq, withdraw?_eq]
  simp only [remove_settled, add_settled]
  split
  · rfl
  split
  · rfl
  split
  · rfl
  split
  · rfl
  split
  · rfl
  · rfl

theorem withdraw_settled (c : Currency) (n : Amount) (slots : Slots) :
    c.withdraw n slots.settled = ((c.withdraw n slots).1, (c.withdraw n slots).2.settled) := by
  rw [withdraw_eq, withdraw_eq, withdraw?_settled]
  cases c.withdraw? n slots with
  | none => rfl
  | some after => rfl

/-- Empty stacks may be taken out before an operation or after it. Insertions, removals, deposits
and payments give the same answer on slots and on the settled slots, and what they make of the
latter is settled. Counts, checks and values are the same. -/
theorem settling_commutes (c : Currency) (s : Stack) (pick : Pick) (n : Amount) (slots : Slots) :
    slots.settled.add s = ((slots.add s).1.settled, (slots.add s).2) ∧
    slots.settled.addInClientOrder s =
      ((slots.addInClientOrder s).1.settled, (slots.addInClientOrder s).2) ∧
    slots.settled.remove pick n = ((slots.remove pick n).1.settled, (slots.remove pick n).2) ∧
    c.deposit n slots.settled = ((c.deposit n slots).1.settled, (c.deposit n slots).2) ∧
    c.withdraw n slots.settled = ((c.withdraw n slots).1, (c.withdraw n slots).2.settled) ∧
    c.withdraw? n slots.settled = (c.withdraw? n slots).map settled ∧
    slots.settled.count pick = slots.count pick ∧
    slots.settled.holds pick n = slots.holds pick n ∧
    c.totalValue slots.settled = c.totalValue slots ∧
    slots.settled.settled = slots.settled :=
  ⟨add_settled s slots, addInClientOrder_settled s slots, remove_settled pick n slots,
    c.deposit_settled n slots, c.withdraw_settled n slots, c.withdraw?_settled n slots,
    count_settled pick slots, holds_settled pick n slots, c.totalValue_settled slots,
    settled_settled slots⟩

end Currency

end Bazaar
