import Bazaar.Proofs.Tax.Rounding
import Mathlib.Algebra.Order.Floor.Semiring
import Mathlib.Tactic.Linarith

/-! # Tax in decimal arithmetic

Tax may be computed with decimal numbers of a limited size, where an operation has no result if the
format has no place for it, and something is put in its place. Where the arithmetic is exact for
numbers of two places below `2 ^ 64`, every step has its result, and what remains of an amount is the
untaxed share, rounded. So it never exceeds the amount, grows with it, and falls with the rate.
-/

namespace Bazaar

/-- Operations on decimal numbers of a limited size. -/
structure Arithmetic (D : Type) where
  ofAmount : Amount → D
  mul? : D → D → Option D
  div? : D → D → Option D
  sub? : D → D → Option D
  floor : D → D
  ceil : D → D
  lt : D → D → Bool
  /-- The amount in a number, if there is one. -/
  toAmount? : D → Option Amount

/-- Numbers of at most two decimal places below `2 ^ 64`. -/
def InRange (x : ℚ) : Prop := |x| < 2 ^ 64 ∧ ∃ k : ℤ, x * 100 = k

namespace Arithmetic

variable {D : Type} {A : Arithmetic D} {value : D → ℚ} {p : TaxPolicy} {gross : Amount}

/-- Operations on numbers in range have exact results if these are in range. -/
structure Exact (A : Arithmetic D) (value : D → ℚ) : Prop where
  ofAmount (n : Amount) : value (A.ofAmount n) = n.val
  mul (x y : D) : InRange (value x) → InRange (value y) → InRange (value x * value y) →
    ∃ z, A.mul? x y = some z ∧ value z = value x * value y
  div (x y : D) : InRange (value x) → InRange (value y) → value y ≠ 0 →
    InRange (value x / value y) → ∃ z, A.div? x y = some z ∧ value z = value x / value y
  sub (x y : D) : InRange (value x) → InRange (value y) → InRange (value x - value y) →
    ∃ z, A.sub? x y = some z ∧ value z = value x - value y
  floor (x : D) : InRange (value x) → value (A.floor x) = ⌊value x⌋
  ceil (x : D) : InRange (value x) → value (A.ceil x) = ⌈value x⌉
  lt (x y : D) : A.lt x y = true ↔ value x < value y
  toAmount (x : D) (n : Amount) : value x = n.val → A.toAmount? x = some n

def clamp (A : Arithmetic D) (x low high : D) : D :=
  if A.lt x low then low else if A.lt high x then high else x

def tax? (A : Arithmetic D) (p : TaxPolicy) (gross : Amount) : Option D :=
  (A.mul? (A.ofAmount gross) (A.ofAmount p.percent)).bind (A.div? · (A.ofAmount 100))

def rounded (A : Arithmetic D) (p : TaxPolicy) (tax : D) : D :=
  if p.roundUp then A.ceil tax else A.floor tax

def net? (A : Arithmetic D) (p : TaxPolicy) (gross : Amount) : Option Amount := do
  let tax ← A.tax? p gross
  let rest ← A.sub? (A.ofAmount gross) (A.rounded p tax)
  A.toAmount? (A.clamp rest (A.ofAmount 0) (A.ofAmount gross))

/-- What remains after tax. Where a step has no result, nothing remains. -/
def net (A : Arithmetic D) (p : TaxPolicy) (gross : Amount) : Amount :=
  if p.percent = 0 || gross = 0 then gross
  else
    match A.tax? p gross with
    | none => 0
    | some tax =>
      let rest := (A.sub? (A.ofAmount gross) (A.rounded p tax)).getD (A.ofAmount 0)
      (A.toAmount? (A.clamp rest (A.ofAmount 0) (A.ofAmount gross))).getD 0

theorem inRange_natCast {n : ℕ} (h : n < 2 ^ 64) : InRange n := by
  refine ⟨?_, n * 100, by push_cast; rfl⟩
  rw [abs_of_nonneg (Nat.cast_nonneg n)]
  exact_mod_cast h

theorem inRange_div_hundred {n : ℕ} (h : n < 2 ^ 64) : InRange (n / 100) := by
  have hn : (0 : ℚ) ≤ n := Nat.cast_nonneg n
  have hlt : (n : ℚ) < 2 ^ 64 := by exact_mod_cast h
  refine ⟨?_, n, by push_cast; ring⟩
  rw [abs_of_nonneg (by positivity)]
  linarith

theorem inRange_sub {m n : ℕ} (hm : m < 2 ^ 64) (hn : n < 2 ^ 64) : InRange ((m : ℚ) - n) := by
  have hm₀ : (0 : ℚ) ≤ m := Nat.cast_nonneg m
  have hn₀ : (0 : ℚ) ≤ n := Nat.cast_nonneg n
  have hm : (m : ℚ) < 2 ^ 64 := by exact_mod_cast hm
  have hn : (n : ℚ) < 2 ^ 64 := by exact_mod_cast hn
  refine ⟨abs_lt.2 ⟨by linarith, by linarith⟩, (m - n) * 100, by push_cast; rfl⟩

theorem val_lt (n : Amount) : n.val < 2 ^ 64 := by
  have := n.le_limit
  omega

theorem mul_val_lt (a b : Amount) : a.val * b.val < 2 ^ 64 := by
  have := Nat.mul_le_mul a.le_limit b.le_limit
  omega

theorem taxOn_lt (p : TaxPolicy) (gross : Amount) : p.taxOn gross < 2 ^ 64 := by
  have := mul_val_lt gross p.percent
  unfold TaxPolicy.taxOn
  split <;> omega

namespace Exact

theorem inRange_ofAmount (hA : A.Exact value) (n : Amount) : InRange (value (A.ofAmount n)) := by
  rw [hA.ofAmount]
  exact inRange_natCast (val_lt n)

theorem tax (hA : A.Exact value) (p : TaxPolicy) (gross : Amount) :
    ∃ tax, A.tax? p gross = some tax ∧ value tax = (gross.val * p.percent.val : ℕ) / 100 := by
  have hlt := mul_val_lt gross p.percent
  have hhundred : value (A.ofAmount 100) = 100 := by
    rw [hA.ofAmount]
    rfl
  have hgross := hA.inRange_ofAmount gross
  have hpercent := hA.inRange_ofAmount p.percent
  obtain ⟨product, hmul, hproduct⟩ := hA.mul _ _ hgross hpercent (by
    rw [hA.ofAmount, hA.ofAmount, ← Nat.cast_mul]
    exact inRange_natCast hlt)
  rw [hA.ofAmount, hA.ofAmount, ← Nat.cast_mul] at hproduct
  obtain ⟨tax, hdiv, htax⟩ := hA.div product (A.ofAmount 100)
    (by rw [hproduct]; exact inRange_natCast hlt) (hA.inRange_ofAmount 100)
    (by rw [hhundred]; norm_num) (by rw [hproduct, hhundred]; exact inRange_div_hundred hlt)
  rw [hproduct, hhundred] at htax
  refine ⟨tax, ?_, htax⟩
  rw [tax?, hmul]
  exact hdiv

theorem rounded (hA : A.Exact value) {tax : D}
    (htax : value tax = (gross.val * p.percent.val : ℕ) / 100) :
    value (A.rounded p tax) = p.taxOn gross := by
  have hrange : InRange (value tax) := htax ▸ inRange_div_hundred (mul_val_lt gross p.percent)
  unfold Arithmetic.rounded TaxPolicy.taxOn
  split
  · rw [hA.ceil tax hrange, htax, TaxPolicy.ceil_div_hundred]
    rfl
  · rw [hA.floor tax hrange, htax, TaxPolicy.floor_div_hundred]
    rfl

theorem clamp (hA : A.Exact value) {rest : D} {k : ℕ} (hrest : value rest = gross.val - k) :
    value (A.clamp rest (A.ofAmount 0) (A.ofAmount gross)) = (gross.val - k : ℕ) := by
  have hk : (0 : ℚ) ≤ k := Nat.cast_nonneg k
  have hzero : value (A.ofAmount 0) = 0 := by
    rw [hA.ofAmount]
    rfl
  unfold Arithmetic.clamp
  simp only [hA.lt, hzero, hA.ofAmount, hrest]
  split_ifs with hlow hhigh
  · have hle : gross.val ≤ k := by
      have : (gross.val : ℚ) < k := by linarith
      exact_mod_cast this.le
    rw [hzero, Nat.sub_eq_zero_of_le hle, Nat.cast_zero]
  · linarith
  · have hle : k ≤ gross.val := by
      have : (k : ℚ) ≤ gross.val := by linarith
      exact_mod_cast this
    rw [hrest, Nat.cast_sub hle]

theorem steps (hA : A.Exact value) (p : TaxPolicy) (gross : Amount) :
    ∃ tax rest, A.tax? p gross = some tax ∧
      A.sub? (A.ofAmount gross) (A.rounded p tax) = some rest ∧
      A.toAmount? (A.clamp rest (A.ofAmount 0) (A.ofAmount gross)) = some (p.net gross) := by
  obtain ⟨tax, htax, hvalue⟩ := hA.tax p gross
  have hrounded := hA.rounded hvalue
  have hrange : InRange (value (A.rounded p tax)) := by
    rw [hrounded]
    exact inRange_natCast (taxOn_lt p gross)
  obtain ⟨rest, hsub, hrest⟩ := hA.sub _ _ (hA.inRange_ofAmount gross) hrange (by
    rw [hrounded, hA.ofAmount]
    exact inRange_sub (val_lt gross) (taxOn_lt p gross))
  rw [hrounded, hA.ofAmount] at hrest
  refine ⟨tax, rest, htax, hsub, hA.toAmount _ _ ?_⟩
  rw [hA.clamp hrest, TaxPolicy.val_net]

theorem net?_eq (hA : A.Exact value) (p : TaxPolicy) (gross : Amount) :
    A.net? p gross = some (p.net gross) := by
  obtain ⟨tax, rest, htax, hsub, hnet⟩ := hA.steps p gross
  simp [net?, htax, hsub, hnet]

theorem net_eq (hA : A.Exact value) (p : TaxPolicy) (gross : Amount) :
    A.net p gross = p.net gross := by
  obtain ⟨tax, rest, htax, hsub, hnet⟩ := hA.steps p gross
  unfold Arithmetic.net
  split
  case isTrue h =>
    exact (TaxPolicy.net_of_no_tax (by simpa using h)).symm
  case isFalse =>
    rw [htax]
    simp [hsub, hnet]

/-- What remains after tax is the untaxed share, rounded against the tax. No step fails and nothing is
put in its place. The rest is no more than the amount, it does not fall when the amount grows nor
grow with the rate, and the two ways of rounding are at most one apart. -/
theorem net_is_rounded_share (hA : A.Exact value) (gross rate : Amount) :
    (∀ up, A.net? ⟨rate, up⟩ gross = some (TaxPolicy.net ⟨rate, up⟩ gross) ∧
      A.net ⟨rate, up⟩ gross = TaxPolicy.net ⟨rate, up⟩ gross) ∧
    ((TaxPolicy.net ⟨rate, true⟩ gross).val : ℤ) = ⌊TaxPolicy.untaxed gross rate⌋ ∧
    ((TaxPolicy.net ⟨rate, false⟩ gross).val : ℤ) = ⌈TaxPolicy.untaxed gross rate⌉ ∧
    (∀ up, TaxPolicy.net ⟨rate, up⟩ gross ≤ gross) ∧
    (∀ up gross', gross ≤ gross' →
      TaxPolicy.net ⟨rate, up⟩ gross ≤ TaxPolicy.net ⟨rate, up⟩ gross') ∧
    (∀ up rate', rate ≤ rate' →
      TaxPolicy.net ⟨rate', up⟩ gross ≤ TaxPolicy.net ⟨rate, up⟩ gross) ∧
    (TaxPolicy.net ⟨rate, true⟩ gross).val ≤ (TaxPolicy.net ⟨rate, false⟩ gross).val ∧
    (TaxPolicy.net ⟨rate, false⟩ gross).val ≤ (TaxPolicy.net ⟨rate, true⟩ gross).val + 1 := by
  refine ⟨fun up => ⟨hA.net?_eq _ _, hA.net_eq _ _⟩, TaxPolicy.net_roundUp_eq_floor gross rate,
    TaxPolicy.net_roundDown_eq_ceil gross rate, fun up => TaxPolicy.net_le_gross _ gross, ?_, ?_,
    TaxPolicy.net_roundDown_bounds gross rate⟩
  · intro up gross' h
    exact TaxPolicy.net_mono h _
  · intro up rate' h
    exact TaxPolicy.net_anti h up gross

end Exact

/-! ## Fractions -/

def place? (x : ℚ) : Option ℚ := if |x| < 2 ^ 96 then some x else none

def fractions : Arithmetic ℚ where
  ofAmount n := n.val
  mul? x y := place? (x * y)
  div? x y := if y = 0 then none else place? (x / y)
  sub? x y := place? (x - y)
  floor x := ⌊x⌋
  ceil x := ⌈x⌉
  lt x y := x < y
  toAmount? x := if x < 0 then none else Amount.ofNat? ⌊x⌋.toNat

theorem place?_of_inRange {x : ℚ} (h : InRange x) : place? x = some x := by
  apply if_pos
  have := h.1
  linarith

theorem exact_fractions : fractions.Exact fun x => x where
  ofAmount _ := rfl
  mul x y _ _ h := ⟨x * y, place?_of_inRange h, rfl⟩
  div x y _ _ hy h := ⟨x / y, (if_neg hy).trans (place?_of_inRange h), rfl⟩
  sub x y _ _ h := ⟨x - y, place?_of_inRange h, rfl⟩
  floor _ _ := rfl
  ceil _ _ := rfl
  lt _ _ := decide_eq_true_iff
  toAmount x n h := by
    subst h
    simp [fractions, Amount.ofNat?, n.le_limit]

theorem net_is_rounded_share_fractions :
    fractions.Exact (fun x => x) ∧ fractions.net? ⟨10, true⟩ 101 = some 90 ∧
    fractions.net ⟨10, false⟩ 101 = 91 ∧ ⌊TaxPolicy.untaxed 101 10⌋ = 90 ∧
    (101 : Amount) ≤ 4294967295 ∧
    TaxPolicy.net ⟨10, true⟩ 101 ≤ TaxPolicy.net ⟨10, true⟩ 4294967295 ∧
    (10 : Amount) ≤ 4294967295 ∧
    TaxPolicy.net ⟨4294967295, true⟩ 101 ≤ TaxPolicy.net ⟨10, true⟩ 101 := by
  have hgross : (101 : Amount) ≤ 4294967295 := by decide
  have hrate : (10 : Amount) ≤ 4294967295 := by decide
  obtain ⟨hsteps, hfloor, -, -, hmono, hanti, -⟩ :=
    Exact.net_is_rounded_share exact_fractions 101 10
  exact ⟨exact_fractions, (hsteps true).1, (hsteps false).2, hfloor.symm, hgross,
    hmono true _ hgross, hrate, hanti true _ hrate⟩

end Arithmetic

end Bazaar
