/-! # Amounts

Item counts, prices, levels and trade numbers are natural numbers of at most 32 bits.
Sums and products that would leave this range stop at its upper end, differences stop at zero.
-/

namespace Bazaar

/-- A natural number of at most 32 bits. -/
structure Amount where
  val : Nat
  le_limit : val ≤ 4294967295
  deriving DecidableEq

namespace Amount

/-- The amount nearest to a number: whatever exceeds the range is cut down to its upper end. -/
def ofNat (n : Nat) : Amount := ⟨min n 4294967295, Nat.min_le_right _ _⟩

def ofNat? (n : Nat) : Option Amount :=
  if h : n ≤ 4294967295 then some ⟨n, h⟩ else none

instance (n : Nat) : OfNat Amount n := ⟨ofNat n⟩
instance : Inhabited Amount := ⟨0⟩

instance : Add Amount := ⟨fun a b => ofNat (a.val + b.val)⟩
instance : Sub Amount := ⟨fun a b => ofNat (a.val - b.val)⟩
instance : Mul Amount := ⟨fun a b => ofNat (a.val * b.val)⟩
instance : Div Amount := ⟨fun a b => ofNat (a.val / b.val)⟩

/-- The quotient rounded up; zero for a zero divisor. -/
def ceilDiv (a b : Amount) : Amount := ofNat ((a.val + b.val - 1) / b.val)

instance : LE Amount := ⟨fun a b => a.val ≤ b.val⟩
instance : LT Amount := ⟨fun a b => a.val < b.val⟩
instance (a b : Amount) : Decidable (a ≤ b) := inferInstanceAs (Decidable (a.val ≤ b.val))
instance (a b : Amount) : Decidable (a < b) := inferInstanceAs (Decidable (a.val < b.val))
instance : Min Amount := ⟨fun a b => if a ≤ b then a else b⟩
instance : Max Amount := ⟨fun a b => if a ≤ b then b else a⟩

theorem ext {a b : Amount} (h : a.val = b.val) : a = b := by
  cases a; cases b; simp_all

theorem ext_iff {a b : Amount} : a = b ↔ a.val = b.val := ⟨congrArg val, ext⟩

theorem le_iff {a b : Amount} : a ≤ b ↔ a.val ≤ b.val := Iff.rfl

@[simp] theorem val_ofNat (n : Nat) : (ofNat n).val = min n 4294967295 := rfl

@[simp] theorem val_zero : (0 : Amount).val = 0 := rfl

theorem val_eq_zero_iff {a : Amount} : a.val = 0 ↔ a = 0 := by
  rw [ext_iff, val_zero]

theorem val_pos_iff {a : Amount} : 0 < a.val ↔ a ≠ 0 := by
  rw [Nat.pos_iff_ne_zero, Ne, val_eq_zero_iff]

@[simp] theorem val_one : (1 : Amount).val = 1 := rfl

theorem val_add (a b : Amount) : (a + b).val = min (a.val + b.val) 4294967295 := rfl

theorem val_mul (a b : Amount) : (a * b).val = min (a.val * b.val) 4294967295 := rfl

@[simp] theorem val_sub (a b : Amount) : (a - b).val = a.val - b.val :=
  Nat.min_eq_left (Nat.le_trans (Nat.sub_le _ _) a.le_limit)

@[simp] theorem val_div (a b : Amount) : (a / b).val = a.val / b.val :=
  Nat.min_eq_left (Nat.le_trans (Nat.div_le_self _ _) a.le_limit)

/-- As many parts as an amount has are in range together. -/
theorem val_mul_of_le_div {k n v : Amount} (h : k.val ≤ n.val / v.val) :
    (k * v).val = k.val * v.val := by
  have hle : k.val * v.val ≤ n.val := Nat.mul_le_of_le_div _ _ _ h
  exact Nat.min_eq_left (Nat.le_trans hle n.le_limit)

/-- What some of the parts of an amount come to. -/
theorem val_paid (n v left : Amount) :
    ((n / v - left) * v).val = (n.val / v.val - left.val) * v.val := by
  have hle : (n / v - left).val ≤ n.val / v.val := by
    rw [val_sub, val_div]
    exact Nat.sub_le _ _
  rw [val_mul_of_le_div hle, val_sub, val_div]

@[simp] theorem val_min (a b : Amount) : (min a b).val = min a.val b.val := by
  change (if a.val ≤ b.val then a else b).val = _
  split <;> omega

@[simp] theorem val_max (a b : Amount) : (max a b).val = max a.val b.val := by
  change (if a.val ≤ b.val then b else a).val = _
  split <;> omega

/-- Rounding up leaves the quotient in range. -/
theorem val_ceilDiv {a b : Amount} (hb : 0 < b.val) :
    (a.ceilDiv b).val = (a.val + b.val - 1) / b.val := by
  refine Nat.min_eq_left (Nat.le_trans ?_ a.le_limit)
  rw [Nat.div_le_iff_le_mul_add_pred hb]
  have := Nat.le_mul_of_pos_left a.val hb
  omega

/-- A quotient that was rounded up covers the dividend, by less than one divisor too much. -/
theorem ceilDiv_mul_bounds {a b : Amount} (hb : 0 < b.val) :
    a.val ≤ (a.ceilDiv b).val * b.val ∧ (a.ceilDiv b).val * b.val < a.val + b.val := by
  rw [val_ceilDiv hb]
  have := Nat.div_mul_le_self (a.val + b.val - 1) b.val
  have := Nat.lt_div_mul_add (a := a.val + b.val - 1) hb
  omega

end Amount

end Bazaar
