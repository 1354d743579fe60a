import Bazaar.Proofs.Currency.Exact
import Bazaar.Proofs.Slots.Settled

/-! # What was earned can be paid back

A deposit that fits can be taken out again. The withdrawal does not undo the deposit slot by slot:
it takes all low currency before it breaks any high currency, and it may break fewer items than the
deposit added. The change that it owes is part of the low currency that was there before the
deposit, so it fits into the slots that held that currency.
-/

namespace Bazaar.Slots

variable {p q : Pick} {s : Stack} {a b : Option Stack} {n : Amount} {before mid after slots : Slots}

/-- No slot holds fewer picked items than before. -/
def Grows (q : Pick) (before after : Slots) : Prop :=
  List.Forall₂ (fun a b => portion q a ≤ portion q b) before after

theorem Grows.trans (h : before.Grows q mid) (h' : mid.Grows q after) : before.Grows q after := by
  induction h generalizing after with
  | nil => exact h'
  | cons hab _ ih =>
    cases h' with
    | cons hbc h' => exact .cons (Nat.le_trans hab hbc) (ih h')

theorem grows_topUp (hq : KindOnly q) (s : Stack) (n : Amount) (slots : Slots) :
    slots.Grows q (topUp s n slots).1 := by
  rw [topUp_eq_walk]
  refine forall₂_walk (fun n slot => ?_) n slots
  rw [portion_topSlot hq]
  exact Nat.le_add_right _ _

theorem grows_fill (q : Pick) (s : Stack) (n : Amount) (slots : Slots) :
    slots.Grows q (fill s n slots).1 := by
  rw [fill_eq_walk]
  refine forall₂_walk (fun n slot => ?_) n slots
  obtain ⟨-, hsame⟩ | ⟨-, hfree, -⟩ := fillSlot_cases s n slot
  · rw [hsame]
  · rw [portion_of_not_occupied hfree]
    exact Nat.zero_le _

theorem grows_add (hq : KindOnly q) (s : Stack) (slots : Slots) :
    slots.Grows q (add s slots).1 :=
  (grows_topUp hq s s.amount slots).trans (grows_fill q s _ _)

/-! ## Room in emptied slots -/

/-- A slot that held picked items, no more than one maximum size of them, has room for as many when
it is cleared. -/
theorem portion_le_freeRoom (hab : portion q a ≤ portion q b)
    (ha : ∀ t, a = some t → q t = true → t.amount.val ≤ max 1 s.maxSize.val) :
    portion q a ≤ freeRoom s (b.filter fun t => t.isEmpty || !q t) := by
  rcases Nat.eq_zero_or_pos (portion q a) with hzero | hpos
  · omega
  have hbound : portion q a ≤ max 1 s.maxSize.val := by
    cases a with
    | none => exact Nat.zero_le _
    | some t =>
      rw [portion_some] at hpos ⊢
      split at hpos
      case isTrue ht => simpa [ht] using ha t rfl ht
      case isFalse => omega
  have hcleared : b.filter (fun t => t.isEmpty || !q t) = none := by
    rw [Option.filter_eq_none_iff]
    rintro u rfl
    rw [portion_some] at hab
    split at hab
    case isTrue hu =>
      have hne : u.isEmpty = false := Stack.isEmpty_eq_false_iff.2 (by omega)
      simp [hne, hu]
    case isFalse => omega
  rw [hcleared, freeRoom, Nat.max_comm]
  exact hbound

theorem total_le_sum_freeRoom (hgrows : before.Grows q after)
    (hb : ∀ t, some t ∈ before → q t = true → t.amount.val ≤ max 1 s.maxSize.val) :
    total q before ≤ ((after.without q).map (freeRoom s)).sum := by
  induction hgrows with
  | nil => exact Nat.le_refl _
  | @cons a b r r' hab _ ih =>
    have hslot := portion_le_freeRoom hab fun t ht => hb t (ht ▸ List.mem_cons_self)
    have hrest := ih fun t ht => hb t (List.mem_cons_of_mem _ ht)
    rw [total_cons, without_cons, List.map_cons, List.sum_cons]
    omega

theorem sum_freeRoom_le_remove (p : Pick) (n : Amount) (slots : Slots) :
    (slots.map (freeRoom s)).sum ≤ ((remove p n slots).1.map (freeRoom s)).sum := by
  rw [remove_eq_walk]
  refine List.Forall₂.sum_le_sum ?_
  rw [List.forall₂_map_left_iff, List.forall₂_map_right_iff]
  refine forall₂_walk (fun n slot => ?_) n slots
  obtain ⟨-, hsame⟩ | ⟨t, rfl, ht, -, -⟩ := removeSlot_cases p slot
  · rw [hsame]
  · rw [freeRoom_of_not_isEmpty ht]
    exact Nat.zero_le _

end Bazaar.Slots

namespace Bazaar.Currency

open Slots

variable {c : Currency} {n : Amount} {slots after : Slots}

theorem grows_deposit {q : Pick} (hq : KindOnly q) (c : Currency) (n : Amount) (slots : Slots) :
    slots.Grows q (c.deposit n slots).1 := by
  unfold deposit
  split
  · exact grows_add hq _ slots
  · exact (grows_add hq _ slots).trans (grows_add hq _ _)

theorem spares_deposit (c : Currency) (n : Amount) (slots : Slots) :
    slots.Spares c.isOther (c.deposit n slots).1 := by
  obtain ⟨m, mid, hdeposit, hspares, -⟩ := c.exists_deposit_eq_add n slots
  rw [hdeposit]
  exact hspares.trans (spares_add c.kindOnly_isOther (c.isOther_lowStack m) mid)

/-- What low currency leaves of a deposit that is taken out again is part of the high currency that
was put in, and it is short of that by no more than the low currency that was there before. -/
theorem exists_short_bounds (hd : c.Distinct) (n : Amount) (slots : Slots)
    (hfit : (c.deposit n slots).2 = 0) :
    ∃ high : Nat, high * c.highValue ≤ n.val ∧
      (remove c.isLow n (c.deposit n slots).1).2.val ≤ high * c.highValue ∧
      high * c.highValue ≤
        (remove c.isLow n (c.deposit n slots).1).2.val + total c.isLow slots := by
  obtain ⟨low, high, hn, htotal⟩ := c.deposit_coins n slots
  have hlow := htotal _ c.kindOnly_isLow
  rw [coins_isLow hd] at hlow
  rw [hfit, Amount.val_zero] at hn
  have hshort := remove_snd_val c.isLow n (c.deposit n slots).1
  exact ⟨high, by omega, by omega, by omega⟩

theorem ceilDiv_mul_le {a v : Amount} {m : Nat} (h : a.val ≤ m * v.val) :
    (a.ceilDiv v).val * v.val ≤ m * v.val := by
  rcases Nat.eq_zero_or_pos v.val with hv | hv
  · simp [hv]
  · exact Nat.mul_le_mul_right _ ((ceilDiv_le_iff hv m).2 h)

theorem roundsInRange_deposit (hd : c.Distinct) (hfit : (c.deposit n slots).2 = 0) :
    c.RoundsInRange n (c.deposit n slots).1 := by
  obtain ⟨high, hn, hshort, -⟩ := exists_short_bounds hd n slots hfit
  intro h hc
  rw [highValue_eq hc] at hn hshort
  exact Nat.le_trans (ceilDiv_mul_le hshort) (Nat.le_trans hn n.le_limit)

/-- The change is no more than the low currency that was there before the deposit. -/
theorem highChange_deposit_le (hd : c.Distinct) (hfit : (c.deposit n slots).2 = 0)
    {h : HighCurrency} (hc : c.high = some h) :
    (highChange h (remove c.isLow n (c.deposit n slots).1).2).val ≤ total c.isLow slots := by
  obtain ⟨high, -, hshort, hold⟩ := exists_short_bounds hd n slots hfit
  rw [highValue_eq hc] at hshort hold
  have hcount := ceilDiv_mul_le hshort
  rw [highChange, Amount.val_sub, Amount.val_mul]
  omega

theorem changeFits_deposit (hd : c.Distinct) (hfit : (c.deposit n slots).2 = 0)
    (hlow : ∀ s, some s ∈ slots → c.isLow s = true → s.amount.val ≤ max 1 c.item.maxSize.val) :
    c.ChangeFits n (c.deposit n slots).1 := by
  intro h hc
  have hchange := highChange_deposit_le hd hfit hc
  generalize hpaid : (c.deposit n slots).1 = paid at hchange ⊢
  by_cases hshort : (remove c.isLow n paid).2 = 0
  · rw [hshort, highChange_zero_val]
    exact Nat.zero_le _
  -- Low currency is short, so all its slots are emptied.
  have hall : (remove c.isLow n paid).1 = paid.without c.isLow := by
    refine remove_of_total_le ?_
    rw [Amount.ext_iff, remove_snd_val, Amount.val_zero] at hshort
    omega
  have hgrows : slots.Grows c.isLow paid := hpaid ▸ grows_deposit c.kindOnly_isLow c n slots
  rw [hall]
  calc (highChange h (remove c.isLow n paid).2).val
    _ ≤ total c.isLow slots := hchange
    _ ≤ ((paid.without c.isLow).map (freeRoom c.item)).sum := total_le_sum_freeRoom hgrows hlow
    _ ≤ _ := sum_freeRoom_le_remove c.isHigh _ _
    _ ≤ _ := Nat.le_add_left _ _

/-- A deposit that fits can be paid back: the withdrawal succeeds, the slots are worth what they
were worth before both, and everything that is no currency is in its slot. -/
theorem deposit_repayable (hd : c.Distinct) (n : Amount) (slots : Slots)
    (hlow : ∀ s, some s ∈ slots → c.isLow s = true → s.amount.val ≤ max 1 c.item.maxSize.val)
    (hfit : (c.deposit n slots).2 = 0) :
    ∃ after, c.withdraw? n (c.deposit n slots).1 = some after ∧
      c.worth after = c.worth slots ∧ slots.Spares c.isOther after ∧
      (c.deposit n slots).1.Spares c.isOther after := by
  have hworth := worth_deposit hd n slots
  rw [hfit, Amount.val_zero] at hworth
  have hpaid : c.withdraw? n (c.deposit n slots).1 ≠ none := by
    rw [Ne, withdraw?_eq_none_iff hd]
    rintro (hpoor | hchange)
    · omega
    · exact hchange (changeFits_deposit hd hfit hlow)
  obtain ⟨after, hafter⟩ := Option.ne_none_iff_exists'.1 hpaid
  have hback := worth_withdraw?_of_inRange hd hafter (roundsInRange_deposit hd hfit)
  have hspares := spares_withdraw? hafter
  refine ⟨after, hafter, by omega, (spares_deposit c n slots).trans hspares, hspares⟩

def emeraldShelf : Slots :=
  [some (.plain "bread" 0), some (.plain "emerald" 1), some (.plain "emerald_block" 1)]

theorem le_maxSize_emeraldShelf : ∀ s, some s ∈ emeraldShelf → standard.isLow s = true →
    s.amount.val ≤ max 1 standard.item.maxSize.val := by
  intro s hs
  simp only [emeraldShelf, List.mem_cons, Option.some.injEq, List.not_mem_nil, or_false] at hs
  rcases hs with rfl | rfl | rfl <;> decide

theorem deposit_repayable_emeraldShelf :
    standard.Distinct ∧
    (∀ s, some s ∈ emeraldShelf → standard.isLow s = true → s.amount.val ≤ max 1 64) ∧
    (standard.deposit 27 emeraldShelf).2 = 0 ∧
    ∃ after, standard.withdraw? 27 (standard.deposit 27 emeraldShelf).1 = some after ∧
      standard.worth after = standard.worth emeraldShelf := by
  have hfit : (standard.deposit 27 emeraldShelf).2 = 0 := by decide
  obtain ⟨after, hafter, hworth, -⟩ :=
    deposit_repayable distinct_standard 27 emeraldShelf le_maxSize_emeraldShelf hfit
  exact ⟨distinct_standard, le_maxSize_emeraldShelf, hfit, after, hafter, hworth⟩

/-- Not everything that is no currency is in its slot: the change takes the slot of the empty stack,
which the deposit has left where it was. -/
theorem exists_empty_stack_lost_in_refund :
    ¬ ∀ (c : Currency) (n : Amount) (slots : Slots), c.Distinct →
      (∀ s, some s ∈ slots → c.isLow s = true → s.amount.val ≤ max 1 c.item.maxSize.val) →
      (c.deposit n slots).2 = 0 →
      ∃ after, c.withdraw? n (c.deposit n slots).1 = some after ∧
        ∀ (i : Nat) (s : Stack), slots[i]? = some (some s) →
          (c.deposit n slots).1[i]? = some (some s) → c.isOther s = true →
          after[i]? = some (some s) := by
  intro h
  obtain ⟨after, hafter, hkept⟩ :=
    h standard 27 emeraldShelf distinct_standard le_maxSize_emeraldShelf (by decide)
  have hback : standard.withdraw? 27 (standard.deposit 27 emeraldShelf).1 =
      some [some (.plain "emerald" 1), none, some (.plain "emerald_block" 1)] := by decide
  obtain rfl := Option.some.inj (hafter.symm.trans hback)
  have := hkept 0 _ rfl (by decide) (by decide)
  exact absurd this (by decide)

end Bazaar.Currency
