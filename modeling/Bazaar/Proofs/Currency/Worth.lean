import Bazaar.Currency
import Bazaar.Proofs.Slots.Total

/-! # The worth of currency

The worth of a list of slots is its low currency and the value of its high currency, without an
upper limit. A deposit adds its amount to the worth up to what does not fit, and a withdrawal takes
its amount away. Both leave everything that is no currency alone.
-/

namespace Bazaar.Currency

open Slots

variable {c : Currency} {q : Pick} {n : Amount} {slots after : Slots}

/-- The high currency is another kind of item than the low currency. -/
def Distinct (c : Currency) : Prop := ∀ h, c.high = some h → h.item.similar c.item = false

def highValue (c : Currency) : Nat :=
  match c.high with
  | none => 0
  | some h => h.value.val

/-- The worth of all currency in a list of slots, as an unbounded number. -/
def worth (c : Currency) (slots : Slots) : Nat :=
  slots.total c.isLow + slots.total c.isHigh * c.highValue

def isMoney (c : Currency) : Pick := fun s => c.isLow s || c.isHigh s

def kinds (c : Currency) : List Kind :=
  c.item.kind :: c.high.toList.map (·.item.kind)

/-- How many items are picked of some low and some high currency. -/
def coins (c : Currency) (q : Pick) (low high : Nat) : Nat :=
  (if q c.item then low else 0) +
    match c.high with
    | none => 0
    | some h => if q h.item then high else 0

theorem distinct_standard : standard.Distinct := by
  rintro _ ⟨⟩
  decide

theorem kindOnly_isLow (c : Currency) : KindOnly c.isLow := by
  intro s t h
  simp [isLow, Stack.similar, h]

theorem kindOnly_isHigh (c : Currency) : KindOnly c.isHigh := by
  intro s t h
  unfold isHigh
  split
  · rfl
  · simp [Stack.similar, h]

theorem isMoney_iff {s : Stack} : c.isMoney s = true ↔ s.kind ∈ c.kinds := by
  cases hc : c.high <;> simp [isMoney, isLow, isHigh, kinds, hc, Stack.similar]

theorem isMoney_eq_false_iff {s : Stack} : c.isMoney s = false ↔ s.kind ∉ c.kinds := by
  rw [← isMoney_iff, Bool.not_eq_true]

theorem ofKind_of_isMoney {κ : Kind} (h : κ ∉ c.kinds) :
    ∀ s, c.isMoney s = true → ofKind κ s = false := by
  intro s hs
  simp only [ofKind, decide_eq_false_iff_not]
  rintro rfl
  exact h (isMoney_iff.1 hs)

theorem coins_add (q : Pick) (a b a' b' : Nat) :
    c.coins q (a + a') (b + b') = c.coins q a b + c.coins q a' b' := by
  unfold coins
  split <;> split <;> (try split) <;> omega

@[simp] theorem isMoney_item (c : Currency) : c.isMoney c.item = true := by
  simp [isMoney, isLow, Stack.similar]

theorem isMoney_high {h : HighCurrency} (hc : c.high = some h) : c.isMoney h.item = true := by
  simp [isMoney, isHigh, hc, Stack.similar]

@[simp] theorem coins_zero (q : Pick) : c.coins q 0 0 = 0 := by
  cases hc : c.high <;> simp [coins, hc]

theorem coins_eq_zero (h : ∀ s, c.isMoney s = true → q s = false) (a b : Nat) :
    c.coins q a b = 0 := by
  cases hc : c.high with
  | none => simp [coins, hc, h c.item c.isMoney_item]
  | some hi => simp [coins, hc, h c.item c.isMoney_item, h hi.item (isMoney_high hc)]

theorem coins_isLow (hd : c.Distinct) (a b : Nat) : c.coins c.isLow a b = a := by
  have hl : c.isLow c.item = true := by simp [isLow, Stack.similar]
  cases hc : c.high with
  | none => simp [coins, hc, hl]
  | some hi =>
    have hh : c.isLow hi.item = false := hd hi hc
    simp [coins, hc, hl, hh]

theorem coins_isHigh (hd : c.Distinct) (a b : Nat) :
    c.coins c.isHigh a b * c.highValue = b * c.highValue := by
  cases hc : c.high with
  | none => simp [highValue, hc]
  | some hi =>
    have hl : c.isHigh c.item = false := by
      have := hd hi hc
      simp only [isHigh, hc, Stack.similar, decide_eq_false_iff_not] at this ⊢
      exact fun h => this h.symm
    have hh : c.isHigh hi.item = true := by simp [isHigh, hc, Stack.similar]
    simp [coins, hc, hl, hh]

theorem worth_of_coins (hd : c.Distinct) {a b : Slots} {low high low' high' : Nat}
    (h : ∀ q, KindOnly q → total q a + c.coins q low high = total q b + c.coins q low' high') :
    c.worth a + (low + high * c.highValue) = c.worth b + (low' + high' * c.highValue) := by
  have hl := h _ c.kindOnly_isLow
  rw [coins_isLow hd, coins_isLow hd] at hl
  have hh := congrArg (· * c.highValue) (h _ c.kindOnly_isHigh)
  simp only [Nat.add_mul, coins_isHigh hd] at hh
  unfold worth
  omega

theorem total_add_lowStack (hq : KindOnly q) (n : Amount) (slots : Slots) :
    total q (add (c.lowStack n) slots).1 =
      total q slots + c.coins q (n.val - (add (c.lowStack n) slots).2.val) 0 := by
  have hs : q (c.lowStack n) = q c.item := hq _ _ rfl
  rw [total_add_eq hq, hs]
  cases hc : c.high <;> simp [coins, hc, lowStack, Stack.withAmount]

theorem total_add_highItem (hq : KindOnly q) {h : HighCurrency} (hc : c.high = some h) (n : Amount)
    (slots : Slots) :
    total q (add (h.item.withAmount n) slots).1 =
      total q slots + c.coins q 0 (n.val - (add (h.item.withAmount n) slots).2.val) := by
  have hs : q (h.item.withAmount n) = q h.item := hq _ _ rfl
  rw [total_add_eq hq, hs]
  simp [coins, hc, Stack.withAmount]

theorem highValue_eq {h : HighCurrency} (hc : c.high = some h) : c.highValue = h.value.val := by
  simp [highValue, hc]

theorem highFor?_eq_some_iff {h : HighCurrency} : c.highFor? n = some h ↔
    c.high = some h ∧ 0 < h.value.val ∧ h.minCost.val < n.val := by
  rw [highFor?, Option.filter_eq_some_iff, Bool.and_eq_true, decide_eq_true_eq, decide_eq_true_eq]
  rfl

/-- A deposit adds low and high currency that is worth the amount less what did not fit. -/
theorem deposit_coins (c : Currency) (n : Amount) (slots : Slots) :
    ∃ low high : Nat, low + high * c.highValue + (c.deposit n slots).2.val = n.val ∧
      ∀ q, KindOnly q → total q (c.deposit n slots).1 = total q slots + c.coins q low high := by
  unfold deposit
  split
  case h_1 =>
    have := add_snd_le (c.lowStack n) slots
    refine ⟨n.val - (add (c.lowStack n) slots).2.val, 0, ?_, fun q hq => total_add_lowStack hq _ _⟩
    simp only [lowStack, Stack.withAmount] at this ⊢
    omega
  case h_2 h hh =>
    obtain ⟨hc, -⟩ := highFor?_eq_some_iff.1 hh
    let count := n / h.value
    let paid := add (h.item.withAmount count) slots
    let rest := n - (count - paid.2) * h.value
    have hpaid : ((count - paid.2) * h.value).val = (count.val - paid.2.val) * h.value.val :=
      (Amount.val_paid n h.value paid.2).trans (by rw [Amount.val_div])
    have hmul : (count.val - paid.2.val) * h.value.val ≤ n.val := by
      rw [Amount.val_div]
      exact Nat.mul_le_of_le_div _ _ _ (Nat.sub_le _ _)
    have hrest := add_snd_le (c.lowStack rest) paid.1
    refine ⟨rest.val - (add (c.lowStack rest) paid.1).2.val, count.val - paid.2.val, ?_, ?_⟩
    · change _ + _ + (add (c.lowStack rest) paid.1).2.val = _
      rw [highValue_eq hc]
      simp only [lowStack, Stack.withAmount, rest, Amount.val_sub, hpaid] at hrest ⊢
      omega
    · intro q hq
      change total q (add (c.lowStack rest) paid.1).1 = _
      rw [total_add_lowStack hq, total_add_highItem hq hc, Nat.add_assoc, ← coins_add,
        Nat.zero_add, Nat.add_zero]

theorem worth_deposit (hd : c.Distinct) (n : Amount) (slots : Slots) :
    c.worth (c.deposit n slots).1 + (c.deposit n slots).2.val = c.worth slots + n.val := by
  obtain ⟨low, high, hn, ht⟩ := c.deposit_coins n slots
  have ht' : ∀ q, KindOnly q →
      total q (c.deposit n slots).1 + c.coins q 0 0 = total q slots + c.coins q low high :=
    fun q hq => by simpa using ht q hq
  have := worth_of_coins hd ht'
  omega

theorem total_deposit (hq : KindOnly q) (h : ∀ s, c.isMoney s = true → q s = false) (n : Amount)
    (slots : Slots) : total q (c.deposit n slots).1 = total q slots := by
  obtain ⟨low, high, -, ht⟩ := c.deposit_coins n slots
  rw [ht q hq, coins_eq_zero h, Nat.add_zero]

theorem withdraw?_eq_some (h : c.withdraw? n slots = some after) :
    remove c.isLow n slots = (after, 0) ∨
    ∃ hi low short high, c.high = some hi ∧ 0 < hi.value.val ∧
      remove c.isLow n slots = (low, short) ∧
      remove c.isHigh (short.ceilDiv hi.value) low = (high, 0) ∧
      add (c.lowStack (short.ceilDiv hi.value * hi.value - short)) high = (after, 0) := by
  rw [withdraw?_eq] at h
  rcases hl : remove c.isLow n slots with ⟨low, short⟩
  simp only [hl] at h
  split at h
  case isTrue hs =>
    obtain rfl := Option.some.inj h
    exact Or.inl (by rw [hs])
  case isFalse =>
    split at h
    · cases h
    case h_2 hi hc =>
      split at h
      · cases h
      case isFalse hv =>
        rcases hh : remove c.isHigh (short.ceilDiv hi.value) low with ⟨high, missing⟩
        simp only [hh] at h
        split at h
        · cases h
        case isFalse hm =>
          rcases ha : add (c.lowStack (short.ceilDiv hi.value * hi.value - short)) high
            with ⟨a, left⟩
          simp only [ha] at h
          split at h
          case isFalse => cases h
          case isTrue hz =>
            obtain rfl := Option.some.inj h
            have hpos : 0 < hi.value.val := Amount.val_pos_iff.2 hv
            have hm : missing = 0 := by simpa using hm
            exact Or.inr ⟨hi, low, short, high, hc, hpos, rfl, by rw [hh, hm], by rw [ha, hz]⟩

theorem similar_of_isLow {s : Stack} (h : c.isLow s = true) : s.similar c.item = true := h

theorem similar_of_isHigh {hi : HighCurrency} (hc : c.high = some hi) {s : Stack}
    (h : c.isHigh s = true) : s.similar hi.item = true := by
  simpa [isHigh, hc] using h

theorem total_remove_isLow (hq : KindOnly q) (n : Amount) (slots : Slots) :
    total q (remove c.isLow n slots).1 + c.coins q n.val 0 =
      total q slots + c.coins q (remove c.isLow n slots).2.val 0 := by
  have := total_remove hq (fun _ h => similar_of_isLow (c := c) h) n slots
  cases hc : c.high <;> simpa [coins, hc] using this

theorem total_remove_isHigh (hq : KindOnly q) {hi : HighCurrency} (hc : c.high = some hi)
    (n : Amount) (slots : Slots) :
    total q (remove c.isHigh n slots).1 + c.coins q 0 n.val =
      total q slots + c.coins q 0 (remove c.isHigh n slots).2.val := by
  have := total_remove hq (fun _ h => similar_of_isHigh hc h) n slots
  simpa [coins, hc] using this

/-- The high currency that covers what low currency leaves of an amount is worth an amount, too. -/
def RoundsInRange (c : Currency) (n : Amount) (slots : Slots) : Prop :=
  ∀ h, c.high = some h →
    ((remove c.isLow n slots).2.ceilDiv h.value).val * h.value.val ≤ 4294967295

theorem roundsInRange_of_le (hn : n.val + c.highValue ≤ 4294967295) : c.RoundsInRange n slots := by
  intro h hc
  have hshort := remove_snd_le c.isLow n slots
  rw [highValue_eq hc] at hn
  rcases Nat.eq_zero_or_pos h.value.val with hv | hv
  · simp [hv]
  · have hbounds := Amount.ceilDiv_mul_bounds (a := (remove c.isLow n slots).2) hv
    omega

/-- A withdrawal takes some low and high currency and leaves some change. What it takes is worth the
amount and the change, as long as rounding up to whole items of high currency stays in range. -/
theorem withdraw?_coins (h : c.withdraw? n slots = some after) :
    ∃ low high change : Nat,
      (c.RoundsInRange n slots → low + high * c.highValue = n.val + change) ∧
      ∀ q, KindOnly q →
        total q after + c.coins q low high = total q slots + c.coins q change 0 := by
  rcases withdraw?_eq_some h with hl | ⟨hi, low, short, high, hc, hv, hl, hh, ha⟩
  · refine ⟨n.val, 0, 0, by simp, fun q hq => ?_⟩
    simpa [hl] using total_remove_isLow hq n slots (c := c)
  · have hshort : short.val ≤ n.val := by simpa [hl] using remove_snd_le c.isLow n slots
    have hround : c.RoundsInRange n slots →
        (short.ceilDiv hi.value).val * hi.value.val ≤ 4294967295 := by
      intro hr
      simpa [hl] using hr hi hc
    obtain ⟨hlo, hup⟩ := Amount.ceilDiv_mul_bounds (a := short) hv
    generalize short.ceilDiv hi.value = count at *
    refine ⟨n.val - short.val, count.val, (count * hi.value - short).val, fun hr => ?_, ?_⟩
    · have hround := hround hr
      rw [highValue_eq hc, Amount.val_sub, Amount.val_mul]
      omega
    · intro q hq
      have hl' := total_remove_isLow hq n slots (c := c)
      have hh' := total_remove_isHigh hq hc count low
      have ha' := total_add_lowStack hq (count * hi.value - short) high (c := c)
      have hsplit := coins_add (c := c) q (n.val - short.val) 0 short.val 0
      have hboth := coins_add (c := c) q (n.val - short.val) 0 0 count.val
      rw [hl] at hl'
      rw [hh] at hh'
      rw [ha] at ha'
      simp only [Nat.sub_add_cancel hshort, Nat.add_zero, Nat.zero_add, Amount.val_zero, coins_zero,
        Nat.sub_zero] at hl' hh' ha' hsplit hboth
      omega

theorem worth_withdraw?_of_inRange (hd : c.Distinct) (h : c.withdraw? n slots = some after)
    (hr : c.RoundsInRange n slots) : c.worth after + n.val = c.worth slots := by
  obtain ⟨low, high, change, hw, ht⟩ := withdraw?_coins h
  have := worth_of_coins hd ht
  have := hw hr
  omega

theorem worth_withdraw? (hd : c.Distinct) (h : c.withdraw? n slots = some after)
    (hn : n.val + c.highValue ≤ 4294967295) : c.worth after + n.val = c.worth slots :=
  worth_withdraw?_of_inRange hd h (roundsInRange_of_le hn)

theorem total_withdraw? (hq : KindOnly q) (hm : ∀ s, c.isMoney s = true → q s = false)
    (h : c.withdraw? n slots = some after) : total q after = total q slots := by
  obtain ⟨low, high, change, -, ht⟩ := withdraw?_coins h
  simpa [coins_eq_zero hm] using ht q hq

end Bazaar.Currency
