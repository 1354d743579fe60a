import Bazaar.Proofs.Slots.Bounded
import Bazaar.Proofs.Slots.Count
import Bazaar.Proofs.Slots.Room
import Bazaar.Proofs.Slots.Settled

/-! # Stock checks and removals

Slots hold an amount of the picked items if and only if a removal of this amount finds it all. A
removal finds what there is, as far as it is asked for. It empties the picked stacks one after the
other, and it changes nothing else.
-/

namespace Bazaar.Slots

variable {p : Pick} {t u : Stack} {slot : Option Stack} {n : Amount} {i j : Nat} {slots : Slots}

/-! ## One slot -/

theorem removeSlot_of_unpicked (h : ∀ t, slot = some t → p t = false) (n : Amount) :
    removeSlot p n slot = slot := by
  obtain ⟨-, hsame⟩ | ⟨t, rfl, -, hp, -⟩ := removeSlot_cases p slot
  · exact hsame n
  · rw [h t rfl] at hp
    exact absurd hp (by decide)

theorem removeSlot_zero (p : Pick) (slot : Option Stack) : removeSlot p 0 slot = slot := by
  obtain ⟨-, hsame⟩ | ⟨t, rfl, ht, -, htake⟩ := removeSlot_cases p slot
  · exact hsame 0
  · have hkept : t.amount - 0 = t.amount := by
      apply Amount.ext
      rw [Amount.val_sub, Amount.val_zero, Nat.sub_zero]
    rw [htake, Stack.decreasedBy_of_lt (Stack.isEmpty_eq_false_iff.1 ht), hkept]
    rfl

theorem removeSlot_eq_empty (h : removeSlot p n slot = some t) (ht : t.isEmpty = true) :
    slot = some t := by
  obtain ⟨-, hsame⟩ | ⟨u, rfl, -, -, htake⟩ := removeSlot_cases p slot
  · rwa [hsame] at h
  · rw [htake, ← nonEmpty?_decreasedBy, nonEmpty?_eq_some_iff, ht] at h
    exact absurd h.2 (by decide)

/-! ## The whole removal -/

theorem total_remove_add_min (hp : AmountFree p) (n : Amount) (slots : Slots) :
    total p (remove p n slots).1 + min n.val (total p slots) = total p slots := by
  have htotal := total_remove_of_imp hp (fun _ ht => ht) n slots
  have hmissing := remove_snd_val p n slots
  omega

/-- Where something is taken from a slot, the picked stacks before it are gone. -/
theorem emptied_before_taken (hji : j < i) (hi : slots[i]? = some slot)
    (htaken : (remove p n slots).1[i]? ≠ some slot) (hj : slots[j]? = some (some u))
    (hp : p u = true) (hu : u.isEmpty = false) : (remove p n slots).1[j]? = some none := by
  rw [getElem?_remove, hi, Option.map_some] at htaken
  rw [getElem?_remove, hj, Option.map_some]
  have hleft : 0 < (n - .ofNat (sharesBefore (portion p) slots i)).val := by
    rw [Amount.val_pos_iff]
    intro hzero
    apply htaken
    rw [hzero, removeSlot_zero]
  have hlt := lt_of_left hj hji hleft
  rw [portion_some, if_pos hp] at hlt
  rw [removeSlot_of_picked hp hu, Stack.decreasedBy_of_le hlt.le]

/-- The check whether there is enough and the removal agree, whatever the slots hold. The removal
takes the smaller of the amount and the total, and what it takes it takes from the front. -/
theorem removal_agrees_with_stock (hp : AmountFree p) (n : Amount) (slots : Slots) :
    (holds p n slots = true ↔ (remove p n slots).2 = 0) ∧
    (∀ m : Amount, count p slots = .ok m ↔ m.val = total p slots) ∧
    (count p slots = .error .overflow ↔ 4294967295 < total p slots) ∧
    (remove p n slots).2.val = n.val - min n.val (total p slots) ∧
    total p (remove p n slots).1 + min n.val (total p slots) = total p slots ∧
    (remove p n slots).1.length = slots.length ∧
    (∀ (i : Nat) (slot : Option Stack), slots[i]? = some slot →
      (∀ t, slot = some t → p t = false) → (remove p n slots).1[i]? = some slot) ∧
    (∀ (i : Nat) (t : Stack), (remove p n slots).1[i]? = some (some t) → t.isEmpty = true →
      slots[i]? = some (some t)) ∧
    (∀ (i j : Nat) (t u : Stack), slots[i]? = some (some t) → p t = true →
      (remove p n slots).1[i]? ≠ some (some t) → j < i → slots[j]? = some (some u) →
      p u = true → u.isEmpty = false → (remove p n slots).1[j]? = some none) := by
  refine ⟨holds_iff.trans remove_snd_eq_zero_iff.symm, fun _ => count_eq_ok_iff,
    count_eq_error_iff, ?_, total_remove_add_min hp n slots, (steady_remove p n slots).length,
    ?_, ?_, ?_⟩
  · rw [remove_snd_val]
    omega
  · intro i slot hi hslot
    rw [getElem?_remove, hi, Option.map_some, removeSlot_of_unpicked hslot]
  · intro i t hi ht
    rw [getElem?_remove, Option.map_eq_some_iff] at hi
    obtain ⟨slot, hslot, hi⟩ := hi
    rw [hslot, removeSlot_eq_empty hi ht]
  · intro i j t u hi _ htaken hji hj hpu hu
    exact emptied_before_taken hji hi htaken hj hpu hu

def goldVault : Slots :=
  [some (.plain "gold" 7), some (.plain "bread" 2), some (.plain "gold" 4294967295)]

theorem removal_agrees_with_stock_goldVault :
    AmountFree (ofItem "gold") ∧ 4294967295 < total (ofItem "gold") goldVault ∧
    count (ofItem "gold") goldVault = .error .overflow ∧
    holds (ofItem "gold") 10 goldVault = true ∧ (remove (ofItem "gold") 10 goldVault).2 = 0 ∧
    (remove (ofItem "gold") 10 goldVault).1[2]? ≠ some (some (.plain "gold" 4294967295)) ∧
    (remove (ofItem "gold") 10 goldVault).1[1]? = some (some (.plain "bread" 2)) ∧
    (remove (ofItem "gold") 10 goldVault).1[0]? = some none := by
  have hfree : AmountFree (ofItem "gold") := (kindOnly_ofItem "gold").amountFree
  have htotal : 4294967295 < total (ofItem "gold") goldVault := by decide
  have htaken : (remove (ofItem "gold") 10 goldVault).1[2]? ≠
      some (some (.plain "gold" 4294967295)) := by decide
  have hbread : ∀ t, some (Stack.plain "bread" 2) = some t → ofItem "gold" t = false := by
    rintro _ ⟨⟩
    decide
  obtain ⟨hcheck, -, hcount, -, -, -, hother, -, hfront⟩ :=
    removal_agrees_with_stock hfree 10 goldVault
  have hmissing : (remove (ofItem "gold") 10 goldVault).2 = 0 := by decide
  exact ⟨hfree, htotal, hcount.2 htotal, hcheck.2 hmissing, hmissing, htaken,
    hother 1 _ rfl hbread, hfront 2 0 _ _ rfl (by decide) htaken (by decide) rfl (by decide)
      (by decide)⟩

end Bazaar.Slots
