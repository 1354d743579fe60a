import Bazaar.Proofs.Currency.Change
import Bazaar.Proofs.Slots.Settled

/-! # What a price costs

A price is split into as much high currency as it is worth and as fits into one stack, and low
currency for the rest. The stacks of a cost are worth the price, and a price has a cost whenever
there is any way to pay it with one stack of each currency: no other split leaves less to low
currency.
-/

namespace Bazaar.Currency

variable {c : Currency} {n price : Amount} {h : HighCurrency} {first : Stack}
  {second : Option Stack}

/-- Some low or high currency: at least one item, and at most what one slot holds of it. -/
structure IsPart (c : Currency) (s : Stack) : Prop where
  nonempty : s.isEmpty = false
  le_maxSize : s.amount.val ≤ s.maxSize.val
  currency : s = c.lowStack s.amount ∨ c.highStack? s.amount = some s

/-! ## Splitting a price -/

theorem highFor?_eq_none_iff : c.highFor? n = none ↔
    ∀ h, c.high = some h → h.value.val = 0 ∨ n.val ≤ h.minCost.val := by
  rw [Option.eq_none_iff_forall_ne_some]
  refine forall_congr' fun h => ?_
  rw [Ne, highFor?_eq_some_iff]
  by_cases hc : c.high = some h
  · simp only [hc, true_and, forall_true_left]
    omega
  · simp [hc]

theorem split_of_none (hn : c.highFor? price = none) : c.split price = (0, price) := by
  rw [split, hn]

theorem split_fst_val (hs : c.highFor? price = some h) :
    (c.split price).1.val = min (price.val / h.value.val) h.item.maxSize.val := by
  simp [split, hs]

theorem split_snd_val (hs : c.highFor? price = some h) :
    (c.split price).2.val = price.val - (c.split price).1.val * h.value.val := by
  have hfirst := split_fst_val hs
  have hle : (c.split price).1.val ≤ price.val / h.value.val := hfirst ▸ Nat.min_le_left _ _
  rw [← Amount.val_mul_of_le_div hle, ← Amount.val_sub]
  simp only [split, hs]

theorem split_worth (c : Currency) (price : Amount) :
    (c.split price).1.val * c.highValue + (c.split price).2.val = price.val := by
  cases hs : c.highFor? price with
  | none => simp [split_of_none hs]
  | some h =>
    obtain ⟨hc, -⟩ := highFor?_eq_some_iff.1 hs
    have hle : (c.split price).1.val * h.value.val ≤ price.val := by
      rw [split_fst_val hs]
      exact Nat.mul_le_of_le_div _ _ _ (Nat.min_le_left _ _)
    rw [split_snd_val hs, highValue_eq hc]
    omega

theorem split_fst_le (hc : c.high = some h) : (c.split price).1.val ≤ h.item.maxSize.val := by
  cases hs : c.highFor? price with
  | none => simp [split_of_none hs]
  | some h' =>
    obtain ⟨hc', -⟩ := highFor?_eq_some_iff.1 hs
    obtain rfl : h = h' := Option.some.inj (hc.symm.trans hc')
    rw [split_fst_val hs]
    exact Nat.min_le_right _ _

/-- No split of a price has less low currency than the one that takes all the high currency it
can. -/
theorem split_snd_le (hs : c.highFor? price = some h) {high low : Nat}
    (hmax : high ≤ h.item.maxSize.val) (hprice : high * h.value.val + low = price.val) :
    (c.split price).2.val ≤ low := by
  obtain ⟨-, hv, -⟩ := highFor?_eq_some_iff.1 hs
  have hdiv : high ≤ price.val / h.value.val := (Nat.le_div_iff_mul_le hv).2 (by omega)
  have hle : high * h.value.val ≤ (c.split price).1.val * h.value.val := by
    rw [split_fst_val hs]
    exact Nat.mul_le_mul_right _ (Nat.le_min.2 ⟨hdiv, hmax⟩)
  rw [split_snd_val hs]
  omega

/-! ## The stacks of a cost -/

theorem cost?_eq_some (hcost : c.cost? price = some (first, second)) :
    (c.split price).2.val ≤ c.item.maxSize.val ∧ first.isEmpty = false ∧
    ((c.highStack? (c.split price).1 = some first ∧
        second = nonEmpty? (some (c.lowStack (c.split price).2))) ∨
      (nonEmpty? (c.highStack? (c.split price).1) = none ∧
        first = c.lowStack (c.split price).2 ∧ second = none)) := by
  unfold cost? at hcost
  generalize c.split price = parts at hcost ⊢
  obtain ⟨high, low⟩ := parts
  dsimp only at hcost ⊢
  split at hcost
  · cases hcost
  case isFalse hlow =>
    refine ⟨Nat.le_of_not_lt hlow, ?_⟩
    split at hcost
    case h_1 hi hhigh =>
      obtain ⟨rfl, rfl⟩ := Prod.mk.inj (Option.some.inj hcost)
      obtain ⟨hhigh, hne⟩ := nonEmpty?_eq_some_iff.1 hhigh
      exact ⟨hne, Or.inl ⟨hhigh, rfl⟩⟩
    case h_2 l hnone hl =>
      obtain ⟨rfl, rfl⟩ := Prod.mk.inj (Option.some.inj hcost)
      obtain ⟨hl, hne⟩ := nonEmpty?_eq_some_iff.1 hl
      exact ⟨hne, Or.inr ⟨hnone, (Option.some.inj hl).symm, rfl⟩⟩
    case h_3 => cases hcost

theorem nonEmpty?_highStack?_eq_none (hnone : nonEmpty? (c.highStack? n) = none) :
    n.val * c.highValue = 0 := by
  cases hc : c.high with
  | none => simp [highValue, hc]
  | some h =>
    have hn : n = 0 := by
      simpa [highStack?, hc, nonEmpty?, Stack.isEmpty, Stack.withAmount] using hnone
    simp [hn]

theorem cost?_eq_none_iff : c.cost? price = none ↔
    price.val = 0 ∨ c.item.maxSize.val < (c.split price).2.val := by
  have hworth := c.split_worth price
  have hzero : price = 0 → (c.split price).1 = 0 := by
    rintro rfl
    have hn : c.highFor? 0 = none := highFor?_eq_none_iff.2 fun h _ => Or.inr (Nat.zero_le _)
    rw [split_of_none hn]
  unfold cost?
  generalize c.split price = parts at hworth hzero ⊢
  obtain ⟨high, low⟩ := parts
  dsimp only at hworth hzero ⊢
  by_cases hlow : c.item.maxSize < low
  · simp only [hlow, if_true, true_iff]
    exact Or.inr hlow
  rw [if_neg hlow]
  have hlow : ¬ c.item.maxSize.val < low.val := hlow
  split
  case h_1 hi hhigh =>
    obtain ⟨hhigh, hne⟩ := nonEmpty?_eq_some_iff.1 hhigh
    simp only [reduceCtorEq, false_iff, hlow, or_false]
    intro hp
    obtain ⟨hi', -, rfl⟩ := Option.map_eq_some_iff.1 hhigh
    simp [hzero (Amount.ext hp), Stack.isEmpty, Stack.withAmount] at hne
  case h_2 l hnone hl =>
    obtain ⟨hl, hne⟩ := nonEmpty?_eq_some_iff.1 hl
    obtain rfl := Option.some.inj hl
    rw [nonEmpty?_highStack?_eq_none hnone] at hworth
    have hne : low.val ≠ 0 := by
      simpa [Stack.isEmpty, lowStack, Stack.withAmount, Amount.ext_iff] using hne
    simp only [reduceCtorEq, false_iff]
    omega
  case h_3 hnone hl =>
    rw [nonEmpty?_highStack?_eq_none hnone] at hworth
    have hl : low.val = 0 := by
      simpa [nonEmpty?, Stack.isEmpty, lowStack, Stack.withAmount, Amount.ext_iff] using hl
    simp only [true_iff]
    omega

theorem valueOf_lowStack (c : Currency) (n : Amount) : c.valueOf (c.lowStack n) = n := by
  simp [valueOf, isLow, lowStack, Stack.similar, Stack.withAmount]

theorem valueOf_highItem (hd : c.Distinct) (hc : c.high = some h) (n : Amount) :
    c.valueOf (h.item.withAmount n) = n * h.value := by
  have hlow : c.isLow (h.item.withAmount n) = false := hd h hc
  rw [valueOf, hlow, hc]
  simp [Stack.similar, Stack.withAmount]

def valueIn (c : Currency) (slot : Option Stack) : Nat := slot.elim 0 fun s => (c.valueOf s).val

theorem valueIn_nonEmpty?_lowStack (c : Currency) (n : Amount) :
    c.valueIn (nonEmpty? (some (c.lowStack n))) = n.val := by
  by_cases hn : n = 0
  · simp [nonEmpty?, Stack.isEmpty, lowStack, Stack.withAmount, hn, valueIn]
  · have hne : nonEmpty? (some (c.lowStack n)) = some (c.lowStack n) :=
      nonEmpty?_eq_some_iff.2 ⟨rfl, decide_eq_false hn⟩
    rw [hne, valueIn, Option.elim_some, valueOf_lowStack]

theorem isPart_of_nonEmpty?_lowStack {s : Stack} (hn : n.val ≤ c.item.maxSize.val)
    (hs : nonEmpty? (some (c.lowStack n)) = some s) : c.IsPart s := by
  obtain ⟨hs, hne⟩ := nonEmpty?_eq_some_iff.1 hs
  obtain rfl := Option.some.inj hs
  exact ⟨hne, hn, Or.inl rfl⟩

/-- The stacks of a cost are not empty, fit into one slot each, and are worth the price. -/
theorem exact_of_cost? (hd : c.Distinct) (hcost : c.cost? price = some (first, second)) :
    c.IsPart first ∧ (∀ s, second = some s → c.IsPart s) ∧
      (c.valueOf first).val + c.valueIn second = price.val := by
  have hworth := c.split_worth price
  obtain ⟨hlow, hne, ⟨hhigh, rfl⟩ | ⟨hnone, rfl, rfl⟩⟩ := cost?_eq_some hcost
  · obtain ⟨h, hc, rfl⟩ := Option.map_eq_some_iff.1 hhigh
    refine ⟨⟨hne, split_fst_le hc, Or.inr hhigh⟩, ?_, ?_⟩
    · intro s hs
      exact isPart_of_nonEmpty?_lowStack hlow hs
    · rw [highValue_eq hc] at hworth
      have hmul : ((c.split price).1 * h.value).val = (c.split price).1.val * h.value.val :=
        Nat.min_eq_left (Nat.le_trans (by omega) price.le_limit)
      rw [valueOf_highItem hd hc, hmul, valueIn_nonEmpty?_lowStack, hworth]
  · refine ⟨⟨hne, hlow, Or.inl rfl⟩, by simp, ?_⟩
    rw [nonEmpty?_highStack?_eq_none hnone] at hworth
    rw [valueOf_lowStack, valueIn, Option.elim_none]
    omega

/-- A price costs one or two stacks that are worth it exactly. In low currency alone it has a cost
unless it is zero or exceeds one stack; with high currency it has one whenever it is the sum of one
stack of each at most. -/
theorem cost_exact_and_complete (hd : c.Distinct) (price : Amount) :
    (∀ first second, c.cost? price = some (first, second) →
      c.IsPart first ∧ (∀ s, second = some s → c.IsPart s) ∧
        (c.valueOf first).val + c.valueIn second = price.val) ∧
    c.cost? 0 = none ∧
    ((∀ h, c.high = some h → h.value = 0 ∨ price ≤ h.minCost) →
      (c.cost? price = none ↔ price = 0 ∨ c.item.maxSize < price)) ∧
    (∀ h, c.high = some h → 0 < h.value → h.minCost < price →
      (c.cost? price = none ↔ ¬ ∃ high low : Nat, high ≤ h.item.maxSize.val ∧
        low ≤ c.item.maxSize.val ∧ high * h.value.val + low = price.val)) := by
  refine ⟨fun _ _ hcost => exact_of_cost? hd hcost, cost?_eq_none_iff.2 (Or.inl rfl), ?_, ?_⟩
  · intro hlow
    have hnone : c.highFor? price = none := by
      refine highFor?_eq_none_iff.2 fun h hc => ?_
      exact (hlow h hc).imp (congrArg Amount.val) id
    rw [cost?_eq_none_iff, split_of_none hnone, Amount.ext_iff]
    rfl
  · intro h hc hv hmin
    have hs : c.highFor? price = some h := highFor?_eq_some_iff.2 ⟨hc, hv, hmin⟩
    have hpos : price.val ≠ 0 := Nat.ne_of_gt (Nat.lt_of_le_of_lt (Nat.zero_le _) hmin)
    rw [cost?_eq_none_iff, ← Nat.not_le]
    constructor
    · rintro (hzero | hover) ⟨high, low, hhigh, hlow, hprice⟩
      · exact hpos hzero
      · exact hover (Nat.le_trans (split_snd_le hs hhigh hprice) hlow)
    · intro hnone
      refine Or.inr fun hlow => hnone ?_
      refine ⟨(c.split price).1.val, (c.split price).2.val, split_fst_le hc, hlow, ?_⟩
      rw [← highValue_eq hc]
      exact c.split_worth price

theorem cost_exact_and_complete_standard :
    standard.Distinct ∧
    standard.cost? 40 = some (.plain "emerald_block" 4, some (.plain "emerald" 4)) ∧
    standard.cost? 640 = some (.plain "emerald_block" 64, some (.plain "emerald" 64)) ∧
    standard.cost? 641 = none ∧
    ¬ ∃ high low : Nat, high ≤ 64 ∧ low ≤ 64 ∧ high * 9 + low = 641 := by
  have hnone : standard.cost? 641 = none := by decide
  have hstacks :=
    (cost_exact_and_complete distinct_standard 641).2.2.2 _ rfl (by decide) (by decide)
  exact ⟨distinct_standard, by decide, by decide, hnone, hstacks.1 hnone⟩

end Bazaar.Currency
