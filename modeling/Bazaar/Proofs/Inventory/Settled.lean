import Bazaar.Inventory
import Bazaar.Proofs.Slots.Settled

/-! # Empty stacks in a storage

Payouts into settled storages leave storages that settle to the same. Whether there is a payout at
all is another matter: a payout into the hotbar needs a slot without a stack, and an empty stack is
one.
-/

namespace Bazaar

open Slots

variable {i j : Inventory} {payout payout' : Payout} {button : Option UInt8}

def Payout.settled : Payout → Payout
  | .cursor stack => .cursor stack
  | .slot index stack => .slot index stack
  | .storage contents => .storage contents.settled

namespace Inventory

/-- The inventory with every empty stack taken out of its storage. -/
def settled (i : Inventory) : Inventory := { i with storage := i.storage.settled }

theorem settled_settled (i : Inventory) : i.settled.settled = i.settled := by
  unfold settled
  rw [Slots.settled_settled]

theorem exists_of_settled_eq (h : j.settled = i.settled) :
    ∃ slots : Slots, j = { i with storage := slots } ∧ slots.settled = i.storage.settled := by
  obtain ⟨hstorage, hcursor, hlocked⟩ := Inventory.mk.inj h
  refine ⟨j.storage, ?_, hstorage⟩
  rw [← hcursor, ← hlocked]

/-- What is left of a stack that is put into a storage does not depend on its empty stacks. -/
theorem addInClientOrder_of_settled_eq (h : j.settled = i.settled) (s : Stack) :
    (j.storage.addInClientOrder s).2 = (i.storage.addInClientOrder s).2 ∧
      (j.storage.addInClientOrder s).1.settled = (i.storage.addInClientOrder s).1.settled := by
  obtain ⟨slots, rfl, hslots⟩ := exists_of_settled_eq h
  have hadd := addInClientOrder_settled s slots
  rw [hslots, addInClientOrder_settled, Prod.mk.injEq] at hadd
  exact ⟨hadd.2.symm, hadd.1.symm⟩

/-! ## Payouts -/

theorem setStorage_of_settled_eq {contents contents' : Slots} (h : j.settled = i.settled)
    (hc : contents'.settled = contents.settled) :
    (j.setStorage contents').map settled = (i.setStorage contents).map settled := by
  obtain ⟨slots, rfl, -⟩ := exists_of_settled_eq h
  unfold setStorage
  split
  · rfl
  · simp only [Except.map, settled, hc]

theorem setCursor_of_settled_eq (h : j.settled = i.settled) (stack : Option Stack) :
    (j.setCursor stack).map settled = (i.setCursor stack).map settled := by
  obtain ⟨slots, rfl, hslots⟩ := exists_of_settled_eq h
  unfold setCursor
  split
  · rfl
  · simp only [Except.map, settled, hslots]

theorem pay_of_settled_eq (h : j.settled = i.settled) (hp : payout'.settled = payout.settled) :
    (j.pay payout').map settled = (i.pay payout).map settled := by
  cases payout with
  | cursor stack =>
    cases payout' <;> cases hp
    exact setCursor_of_settled_eq h _
  | storage contents =>
    cases payout' with
    | cursor | slot => cases hp
    | storage contents' => exact setStorage_of_settled_eq h (Payout.storage.inj hp)
  | slot index stack =>
    cases payout' <;> cases hp
    obtain ⟨slots, rfl, hslots⟩ := exists_of_settled_eq h
    have hlength : slots.length = i.storage.length := by
      simpa [Slots.settled] using congrArg List.length hslots
    have hset : Slots.settled (slots.set index (some stack)) =
        Slots.settled (i.storage.set index (some stack)) := by
      unfold Slots.settled at hslots ⊢
      rw [List.map_set, List.map_set, hslots]
    simp only [pay, hlength]
    split
    · exact setStorage_of_settled_eq h hset
    · rfl

/-- Such payouts are refused for the same reason, or both are made. -/
theorem pay_cases_of_settled_eq (h : j.settled = i.settled)
    (hp : payout'.settled = payout.settled) :
    (∃ e, i.pay payout = .error e ∧ j.pay payout' = .error e) ∨
      ∃ i' j', i.pay payout = .ok i' ∧ j.pay payout' = .ok j' ∧ j'.settled = i'.settled := by
  have hpay := pay_of_settled_eq h hp
  cases hi : i.pay payout with
  | error e =>
    cases hj : j.pay payout' with
    | error e' =>
      rw [hi, hj] at hpay
      cases hpay
      exact Or.inl ⟨e, rfl, rfl⟩
    | ok j' =>
      rw [hi, hj] at hpay
      cases hpay
  | ok i' =>
    cases hj : j.pay payout' with
    | error e =>
      rw [hi, hj] at hpay
      cases hpay
    | ok j' =>
      rw [hi, hj] at hpay
      exact Or.inr ⟨i', j', rfl, rfl, Except.ok.inj hpay⟩

/-! ## The hotbar -/

def EmptyStackAt (i : Inventory) (button : Option UInt8) : Prop :=
  ∃ b s, button = some b ∧ b.toNat < hotbarSize ∧ i.storage[b.toNat]? = some (some s) ∧
    s.isEmpty = true

theorem getElem?_storage_settled (i : Inventory) (n : Nat) :
    i.settled.storage[n]? = i.storage[n]?.map nonEmpty? :=
  List.getElem?_map

/-- There is a payout into a settled slot but none into an empty stack. -/
theorem EmptyStackAt.hotbarPayout? (h : i.EmptyStackAt button) (result : Stack) :
    i.hotbarPayout? button result = none ∧
      (i.settled.hotbarPayout? button result).isSome = true := by
  obtain ⟨b, s, rfl, hb, hslot, hs⟩ := h
  have hslot' : i.settled.storage[b.toNat]? = some none := by
    rw [getElem?_storage_settled, hslot, Option.map_some, nonEmpty?_of_isEmpty hs]
  simp [Inventory.hotbarPayout?, hslot, hslot', hb]

theorem hotbarPayout?_settled (h : ¬ i.EmptyStackAt button) (result : Stack) :
    i.settled.hotbarPayout? button result = i.hotbarPayout? button result := by
  unfold hotbarPayout?
  cases button with
  | none => rfl
  | some b =>
    by_cases hb : b.toNat < hotbarSize
    · have hslot : i.settled.storage[b.toNat]? = some none ↔ i.storage[b.toNat]? = some none := by
        rw [getElem?_storage_settled]
        cases hs : i.storage[b.toNat]? with
        | none => simp
        | some slot =>
          cases slot with
          | none => simp [nonEmpty?]
          | some s =>
            have hne : s.isEmpty = false := by
              cases he : s.isEmpty
              · rfl
              · exact absurd ⟨b, s, rfl, hb, hs, he⟩ h
            simp [nonEmpty?_of_not_isEmpty hne]
      simp only [hslot]
    · simp [hb]

end Inventory

end Bazaar
