import Bazaar.Proofs.Currency.Cost
import Bazaar.Proofs.Currency.Exact
import Bazaar.Proofs.Slots.Piles

/-! # Currency without a limit

The computations with currency are stated here once more in natural numbers, where no product is cut
down. Splits, costs and deposits agree with them always: what they multiply is part of an amount.
A withdrawal multiplies more than that, because it rounds the high currency up. It agrees unless the
rounded worth leaves the range of amounts, and then a part of the change is lost.
-/

namespace Bazaar

/-! ## The computations in natural numbers -/

namespace Unlimited

def highFor? (c : Currency) (n : Nat) : Option HighCurrency :=
  c.high.filter fun h => decide (0 < h.value.val) && decide (h.minCost.val < n)

def split (c : Currency) (price : Nat) : Nat × Nat :=
  match highFor? c price with
  | none => (0, price)
  | some h =>
    let count := min (price / h.value.val) h.item.maxSize.val
    (count, price - count * h.value.val)

def nonEmpty? : Option Pile → Option Pile
  | none => none
  | some t => if t.isEmpty then none else some t

def cost? (c : Currency) (price : Nat) : Option (Pile × Option Pile) :=
  let (high, low) := split c price
  if c.item.maxSize.val < low then none
  else match nonEmpty? (c.high.map fun h => h.item.pile.withAmount high),
      nonEmpty? (some (c.item.pile.withAmount low)) with
    | some h, l => some (h, l)
    | none, some l => some (l, none)
    | none, none => none

/-- Put currency of some worth in. Returns the worth that did not fit. -/
def deposit (c : Currency) (n : Nat) (piles : Piles) : Piles × Nat :=
  match highFor? c n with
  | none => Piles.add (c.item.pile.withAmount n) piles
  | some h =>
    let count := n / h.value.val
    let (piles, left) := Piles.add (h.item.pile.withAmount count) piles
    Piles.add (c.item.pile.withAmount (n - (count - left) * h.value.val)) piles

def isLow (c : Currency) (t : Pile) : Bool := t.similar c.item.pile

def isHigh (c : Currency) (t : Pile) : Bool :=
  match c.high with
  | none => false
  | some h => t.similar h.item.pile

/-- Take currency of some worth out, low before high currency, and put the change back. -/
def withdraw? (c : Currency) (n : Nat) (piles : Piles) : Option Piles :=
  let (piles, short) := Piles.remove (isLow c) n piles
  if short = 0 then some piles
  else match c.high with
    | none => none
    | some h =>
      if h.value.val = 0 then none
      else
        let count := short ⌈/⌉ h.value.val
        let (piles, missing) := Piles.remove (isHigh c) count piles
        if missing ≠ 0 then none
        else
          let (piles, left) :=
            Piles.add (c.item.pile.withAmount (count * h.value.val - short)) piles
          if left = 0 then some piles else none

end Unlimited

namespace Slots

variable {s : Stack} {a b : Amount} {slots : Slots}

def addAll? (s : Stack) (slots : Slots) : Option Slots :=
  if (add s slots).2 = 0 then some (add s slots).1 else none

theorem addAll?_piles (s : Stack) (slots : Slots) :
    (if (Piles.add s.pile slots.piles).2 = 0 then some (Piles.add s.pile slots.piles).1 else none) =
      (addAll? s slots).map piles := by
  rw [add_piles, addAll?]
  by_cases hleft : (add s slots).2 = 0
  · simp [hleft]
  · have hleft' : (add s slots).2.val ≠ 0 := Amount.val_eq_zero_iff.not.2 hleft
    simp [hleft, hleft']

theorem addAll?_eq_none_iff : addAll? s slots = none ↔ room s slots < s.amount.val := by
  rw [← Nat.not_le, ← add_snd_eq_zero_iff, addAll?]
  simp

theorem total_addAll? {after : Slots} (h : addAll? s slots = some after) :
    total (ofKind s.kind) after = total (ofKind s.kind) slots + s.amount.val := by
  have hown : ofKind s.kind s = true := by simp [ofKind]
  have htotal := total_add (kindOnly_ofKind s.kind) s slots
  rw [if_pos hown, if_pos hown] at htotal
  unfold addAll? at h
  split at h
  case isTrue hleft =>
    obtain rfl := Option.some.inj h
    simpa [hleft] using htotal
  case isFalse => cases h

/-- Insertions of two amounts of one stack, each as a whole, have the same outcome only if the
amounts are the same or neither fits. -/
theorem addAll?_withAmount_eq_iff :
    addAll? (s.withAmount a) slots = addAll? (s.withAmount b) slots ↔
      a = b ∨ (room s slots < a.val ∧ room s slots < b.val) := by
  have hnone : ∀ m, addAll? (s.withAmount m) slots = none ↔ room s slots < m.val :=
    fun _ => addAll?_eq_none_iff
  constructor
  · intro heq
    cases hb : addAll? (s.withAmount b) slots with
    | none => exact Or.inr ⟨(hnone a).1 (heq.trans hb), (hnone b).1 hb⟩
    | some after =>
      have ha := total_addAll? (heq.trans hb)
      have hb := total_addAll? hb
      change total (ofKind s.kind) after = total (ofKind s.kind) slots + a.val at ha
      change total (ofKind s.kind) after = total (ofKind s.kind) slots + b.val at hb
      exact Or.inl (Amount.ext (by omega))
  · rintro (rfl | ⟨ha, hb⟩)
    · rfl
    · rw [(hnone a).2 ha, (hnone b).2 hb]

end Slots

namespace Currency

open Slots

variable {c : Currency} {n price : Amount} {h : HighCurrency} {slots : Slots}

/-! ## Splits, costs and deposits -/

theorem unlimited_highFor? (c : Currency) (n : Amount) :
    Unlimited.highFor? c n.val = c.highFor? n := rfl

theorem unlimited_split (c : Currency) (price : Amount) :
    Unlimited.split c price.val = ((c.split price).1.val, (c.split price).2.val) := by
  rw [Unlimited.split, unlimited_highFor?]
  cases hs : c.highFor? price with
  | none => rw [split_of_none hs, Amount.val_zero]
  | some h => rw [split_snd_val hs, split_fst_val hs]

theorem unlimited_nonEmpty? (slot : Option Stack) :
    Unlimited.nonEmpty? (slot.map Stack.pile) = (nonEmpty? slot).map Stack.pile := by
  cases slot with
  | none => rfl
  | some s =>
    rw [Option.map_some, Unlimited.nonEmpty?, nonEmpty?, Stack.isEmpty_pile]
    split <;> rfl

theorem unlimited_cost? (c : Currency) (price : Amount) :
    Unlimited.cost? c price.val =
      (c.cost? price).map fun cost => (cost.1.pile, cost.2.map Stack.pile) := by
  have hhigh := unlimited_nonEmpty? (c.highStack? (c.split price).1)
  have hlow := unlimited_nonEmpty? (some (c.lowStack (c.split price).2))
  rw [highStack?, Option.map_map] at hhigh
  rw [Unlimited.cost?, cost?, unlimited_split]
  generalize c.split price = parts at hhigh hlow ⊢
  obtain ⟨high, low⟩ := parts
  change Unlimited.nonEmpty? (c.high.map fun h => h.item.pile.withAmount high.val) = _ at hhigh
  change Unlimited.nonEmpty? (some (c.item.pile.withAmount low.val)) = _ at hlow
  dsimp only at hhigh hlow ⊢
  rw [hhigh, hlow, highStack?]
  by_cases hover : c.item.maxSize < low
  · have hover' : c.item.maxSize.val < low.val := hover
    rw [if_pos hover, if_pos hover', Option.map_none]
  · have hover' : ¬ c.item.maxSize.val < low.val := hover
    rw [if_neg hover, if_neg hover']
    cases nonEmpty? (c.high.map fun h => h.item.withAmount high) <;>
      cases nonEmpty? (some (c.lowStack low)) <;> rfl

theorem unlimited_deposit (c : Currency) (n : Amount) (slots : Slots) :
    Unlimited.deposit c n.val slots.piles =
      ((c.deposit n slots).1.piles, (c.deposit n slots).2.val) := by
  rw [Unlimited.deposit, deposit, unlimited_highFor?]
  cases c.highFor? n with
  | none => exact add_piles (c.lowStack n) slots
  | some h =>
    dsimp only
    rw [← Amount.val_div, Stack.withAmount_pile, add_piles, Amount.val_div]
    dsimp only
    rw [← Amount.val_paid, ← Amount.val_sub]
    exact add_piles (c.lowStack _) _

/-! ## Withdrawals -/

/-- The change of a debt, which is less than one item of high currency. -/
def fullChange (h : HighCurrency) (debt : Amount) : Amount := .ofNat (changeOf h debt.val)

theorem val_fullChange (h : HighCurrency) (debt : Amount) :
    (fullChange h debt).val = changeOf h debt.val := by
  refine Nat.min_eq_left (Nat.le_trans ?_ h.value.le_limit)
  rcases Nat.eq_zero_or_pos h.value.val with hv | hv
  · rw [changeOf, hv, Nat.mul_zero, Nat.zero_sub]
  · have hbounds := Amount.ceilDiv_mul_bounds (a := debt) hv
    rw [val_ceilDiv_eq] at hbounds
    rw [changeOf]
    omega

/-- A payment whose change is cut down: the slots are worth the amount, but the high currency that
is broken for it is worth more than amounts can be, and what the limit leaves of the change fits. -/
def LosesChange (c : Currency) (n : Amount) (slots : Slots) : Prop :=
  n.val ≤ c.worth slots ∧ ∃ h, c.high = some h ∧
    4294967295 < c.debt n slots ⌈/⌉ h.value.val * h.value.val ∧
    4294967295 - c.debt n slots ≤ room c.item (c.emptied h (c.debt n slots) slots)

def payHigh? (c : Currency) (count change : Amount) (slots : Slots) : Option Slots :=
  if (remove c.isHigh count slots).2 ≠ 0 then none
  else addAll? (c.lowStack change) (remove c.isHigh count slots).1

def withdrawWith? (c : Currency) (change : HighCurrency → Amount → Amount) (n : Amount)
    (slots : Slots) : Option Slots :=
  let (rest, short) := remove c.isLow n slots
  if short = 0 then some rest
  else match c.high with
    | none => none
    | some h =>
      if h.value = 0 then none else c.payHigh? (short.ceilDiv h.value) (change h short) rest

theorem withdrawWith?_highChange (c : Currency) (n : Amount) (slots : Slots) :
    c.withdrawWith? highChange n slots = c.withdraw? n slots :=
  (c.withdraw?_eq n slots).symm

theorem payHigh?_eq_iff {count a b : Amount} :
    c.payHigh? count a slots = c.payHigh? count b slots ↔
      total c.isHigh slots < count.val ∨ a = b ∨
        (room c.item (remove c.isHigh count slots).1 < a.val ∧
          room c.item (remove c.isHigh count slots).1 < b.val) := by
  rw [← Nat.not_le, ← remove_snd_eq_zero_iff, payHigh?, payHigh?]
  by_cases hmissing : (remove c.isHigh count slots).2 = 0
  · simp only [hmissing, ne_eq, not_true_eq_false, if_false, false_or]
    exact addAll?_withAmount_eq_iff
  · simp only [hmissing, ne_eq, not_false_eq_true, if_true, true_or]

theorem isLow_pile (c : Currency) (t : Stack) : Unlimited.isLow c t.pile = c.isLow t := rfl

theorem isHigh_pile (c : Currency) (t : Stack) : Unlimited.isHigh c t.pile = c.isHigh t := by
  cases hc : c.high <;> simp [Unlimited.isHigh, isHigh, hc]

/-- Without a limit, a withdrawal puts the full change back. -/
theorem unlimited_withdraw? (c : Currency) (n : Amount) (slots : Slots) :
    Unlimited.withdraw? c n.val slots.piles = (c.withdrawWith? fullChange n slots).map piles := by
  rw [Unlimited.withdraw?, withdrawWith?, remove_piles c.isLow_pile]
  generalize remove c.isLow n slots = paid
  obtain ⟨rest, short⟩ := paid
  dsimp only
  by_cases hs : short = 0
  · simp [hs]
  have hs' : short.val ≠ 0 := Amount.val_eq_zero_iff.not.2 hs
  rw [if_neg hs, if_neg hs']
  cases c.high with
  | none => rfl
  | some h =>
    dsimp only
    by_cases hv : h.value = 0
    · simp [hv]
    have hv' : h.value.val ≠ 0 := Amount.val_eq_zero_iff.not.2 hv
    have hchange : short.val ⌈/⌉ h.value.val * h.value.val - short.val =
        (fullChange h short).val := (val_fullChange h short).symm
    rw [if_neg hv, if_neg hv', hchange, ← val_ceilDiv_eq, remove_piles c.isHigh_pile,
      Stack.withAmount_pile, payHigh?]
    generalize remove c.isHigh (short.ceilDiv h.value) rest = broken
    obtain ⟨rest', missing⟩ := broken
    dsimp only
    by_cases hm : missing = 0
    · simp only [hm, Amount.val_zero, ne_eq, not_true_eq_false, if_false]
      exact addAll?_piles _ _
    · have hm' : missing.val ≠ 0 := Amount.val_eq_zero_iff.not.2 hm
      rw [if_pos hm, if_pos hm', Option.map_none]

/-- What the limit takes from the change of a debt makes a difference to a payment exactly when it
takes something, there is enough high currency, and the rest of the change fits: then the payment
goes through and less is put back than is owed, or something is put back where nothing would fit. -/
theorem payHigh?_fullChange_eq_iff (hv : 0 < h.value.val) (debt : Amount) (slots : Slots) :
    c.payHigh? (debt.ceilDiv h.value) (fullChange h debt) slots =
        c.payHigh? (debt.ceilDiv h.value) (highChange h debt) slots ↔
      ¬ (debt.val ≤ total c.isHigh slots * h.value.val ∧
        4294967295 < debt.val ⌈/⌉ h.value.val * h.value.val ∧
        4294967295 - debt.val ≤ room c.item (remove c.isHigh (debt.ceilDiv h.value) slots).1) := by
  have hlimit := debt.le_limit
  obtain ⟨hlo, -⟩ := Amount.ceilDiv_mul_bounds (a := debt) hv
  rw [val_ceilDiv_eq] at hlo
  rw [payHigh?_eq_iff, Amount.ext_iff, val_fullChange, val_highChange_eq_min, changeOf,
    ← Nat.not_le, ceilDiv_le_iff hv]
  generalize debt.val ⌈/⌉ h.value.val * h.value.val = rounded at hlo ⊢
  generalize room c.item (remove c.isHigh (debt.ceilDiv h.value) slots).1 = space
  omega

/-- A withdrawal that puts the full change back is the same as one that puts back what the limit
leaves of it, unless a payment loses change. -/
theorem withdrawWith?_fullChange_eq_iff (hd : c.Distinct) :
    c.withdrawWith? fullChange n slots = c.withdraw? n slots ↔ ¬ c.LosesChange n slots := by
  have hshort : (remove c.isLow n slots).2.val = c.debt n slots := remove_snd_val c.isLow n slots
  have hhigh := total_isHigh_remove_isLow hd n slots
  have hworth : n.val ≤ c.worth slots ↔ c.debt n slots ≤ total c.isHigh slots * c.highValue := by
    rw [worth, debt]
    omega
  have hall : 0 < c.debt n slots → (remove c.isLow n slots).1 = slots.without c.isLow := by
    intro hpos
    exact remove_of_total_le (by unfold debt at hpos; omega)
  rw [← withdrawWith?_highChange, withdrawWith?, withdrawWith?, LosesChange, hworth, ← hhigh,
    ← hshort]
  rw [← hshort] at hall
  simp only [emptied, ← ceilDiv_eq]
  generalize remove c.isLow n slots = paid at hall ⊢
  obtain ⟨rest, short⟩ := paid
  dsimp only at hall ⊢
  by_cases hs : short = 0
  · -- Low currency alone pays, and there is no change.
    simp [hs]
  rw [if_neg hs, if_neg hs, ← hall (Amount.val_pos_iff.2 hs)]
  cases hc : c.high with
  | none => simp
  | some h =>
    by_cases hv : h.value = 0
    · simp [hv]
    have hpos : 0 < h.value.val := Amount.val_pos_iff.2 hv
    simp only [if_neg hv, Option.some.injEq, exists_eq_left', highValue_eq hc]
    exact payHigh?_fullChange_eq_iff hpos short rest

/-- The limit of amounts is not seen in splits, costs and deposits. It is seen in a withdrawal
exactly when the payment loses change, and never when the amount and one item of high currency are
together in range. -/
theorem agrees_with_unlimited_iff (hd : c.Distinct) (n : Amount) (slots : Slots) :
    Unlimited.split c n.val = ((c.split n).1.val, (c.split n).2.val) ∧
    Unlimited.cost? c n.val =
      (c.cost? n).map (fun cost => (cost.1.pile, cost.2.map Stack.pile)) ∧
    Unlimited.deposit c n.val slots.piles =
      ((c.deposit n slots).1.piles, (c.deposit n slots).2.val) ∧
    (Unlimited.withdraw? c n.val slots.piles = (c.withdraw? n slots).map piles ↔
      ¬ c.LosesChange n slots) ∧
    (n.val + c.highValue ≤ 4294967295 → ¬ c.LosesChange n slots) := by
  refine ⟨c.unlimited_split n, c.unlimited_cost? n, c.unlimited_deposit n slots, ?_, ?_⟩
  · rw [unlimited_withdraw?, (Option.map_injective piles_injective).eq_iff]
    exact withdrawWith?_fullChange_eq_iff hd
  · rintro hn ⟨-, h, hc, hover, -⟩
    have hrounds : c.RoundsInRange n slots := roundsInRange_of_le hn
    have hround := hrounds h hc
    rw [val_ceilDiv_eq, remove_snd_val] at hround
    exact Nat.not_le.2 hover hround

def doubleEmeralds : Currency where
  item := .plain "emerald" 1
  high := some { item := .plain "emerald_block" 1, value := 2, minCost := 20 }

def blockHoard : Slots := [some (.plain "emerald_block" 2147483648)]

theorem distinct_doubleEmeralds : doubleEmeralds.Distinct := by
  rintro _ ⟨⟩
  decide

theorem agrees_with_unlimited_iff_blockHoard :
    doubleEmeralds.Distinct ∧ doubleEmeralds.LosesChange 4294967295 blockHoard ∧
    Unlimited.withdraw? doubleEmeralds 4294967295 blockHoard.piles ≠
      (doubleEmeralds.withdraw? 4294967295 blockHoard).map piles := by
  have hloses : doubleEmeralds.LosesChange 4294967295 blockHoard :=
    ⟨by decide, _, rfl, by decide, by decide⟩
  have hagrees := (agrees_with_unlimited_iff distinct_doubleEmeralds 4294967295 blockHoard).2.2.2.1
  exact ⟨distinct_doubleEmeralds, hloses, fun h => hagrees.1 h hloses⟩

/-- A payment that takes every block gives no change back, although they are worth one emerald more
than the payment. -/
theorem exists_lost_change :
    ¬ ∀ (c : Currency) (n : Amount) (slots : Slots), c.Distinct →
      Unlimited.withdraw? c n.val slots.piles = (c.withdraw? n slots).map piles := by
  intro h
  exact absurd (h doubleEmeralds 4294967295 blockHoard distinct_doubleEmeralds) (by decide)

end Currency

end Bazaar
