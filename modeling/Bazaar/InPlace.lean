/-! # Calls in place

A call that works in place leaves a state behind when it fails, too: whatever it had done by then.
What becomes of that state is up to the caller.
-/

namespace Bazaar

/-- The answer of a call in place and the state that it leaves. -/
abbrev InPlace (ε σ : Type) := Except ε Unit × σ

namespace InPlace

variable {ε σ : Type}

/-- Go on after a call, unless it failed. -/
def andThen (r : InPlace ε σ) (next : σ → InPlace ε σ) : InPlace ε σ :=
  match r with
  | (.ok (), s) => next s
  | (.error e, s) => (.error e, s)

/-- The same answer with the state seen through a function. -/
def map {τ : Type} (f : σ → τ) (r : InPlace ε σ) : InPlace ε τ := (r.1, f r.2)

/-- The state after a call that succeeded. What a failed call leaves is given up. -/
def toExcept : InPlace ε σ → Except ε σ
  | (.ok (), s) => .ok s
  | (.error e, _) => .error e

instance : Coe (InPlace ε σ) (Except ε σ) := ⟨toExcept⟩

variable {r : InPlace ε σ} {s : σ} {e : ε}

@[simp] theorem toExcept_ok (u : Unit) (s : σ) : toExcept ((.ok u, s) : InPlace ε σ) = .ok s := rfl

@[simp] theorem toExcept_error (e : ε) (s : σ) :
    toExcept ((.error e, s) : InPlace ε σ) = .error e := rfl

theorem toExcept_eq_ok_iff : r.toExcept = .ok s ↔ r = (.ok (), s) := by
  rcases r with ⟨_ | _, s'⟩ <;> simp

theorem toExcept_eq_error_iff : r.toExcept = .error e ↔ r.1 = .error e := by
  rcases r with ⟨_ | _, s'⟩ <;> simp

theorem ite_eq_ok_iff {p : Prop} [Decidable p] {t : σ} :
    ((if p then .ok () else .error e, s) : InPlace ε σ) = (.ok (), t) ↔ s = t ∧ p := by
  by_cases hp : p <;> simp [hp]

theorem ite_eq_error_iff {p : Prop} [Decidable p] {why : ε} :
    ((if p then .ok () else .error e, s) : InPlace ε σ).1 = .error why ↔ ¬p ∧ why = e := by
  by_cases hp : p <;> simp [hp, eq_comm]

theorem toExcept_ite (p : Prop) [Decidable p] (e : ε) (s : σ) :
    toExcept ((if p then .ok () else .error e, s) : InPlace ε σ) =
      if p then .ok s else .error e := by
  split
  · rfl
  · rfl

theorem toExcept_map {τ : Type} (f : σ → τ) (r : InPlace ε σ) :
    (r.map f).toExcept = r.toExcept.map f := by
  rcases r with ⟨_ | _, s⟩ <;> rfl

theorem andThen_eq_ok_iff {next : σ → InPlace ε σ} {t : σ} :
    r.andThen next = (.ok (), t) ↔ ∃ s, r = (.ok (), s) ∧ next s = (.ok (), t) := by
  rcases r with ⟨_ | _, s⟩ <;> simp [andThen]

theorem andThen_eq_error_iff {next : σ → InPlace ε σ} :
    (r.andThen next).1 = .error e ↔
      r.1 = .error e ∨ ∃ s, r = (.ok (), s) ∧ (next s).1 = .error e := by
  rcases r with ⟨_ | _, s⟩ <;> simp [andThen]

@[simp] theorem andThen_ok (r : InPlace ε σ) : (r.andThen fun s => (.ok (), s)) = r := by
  rcases r with ⟨_ | _, s⟩ <;> rfl

theorem map_andThen {f : σ → σ} {next : σ → InPlace ε σ} (r : InPlace ε σ)
    (h : ∀ s, next (f s) = (next s).map f) : (r.map f).andThen next = (r.andThen next).map f := by
  rcases r with ⟨_ | _, s⟩
  · rfl
  · exact h s

@[simp] theorem toExcept_andThen (r : InPlace ε σ) (next : σ → InPlace ε σ) :
    (r.andThen next).toExcept = r.toExcept.bind fun s => (next s).toExcept := by
  rcases r with ⟨_ | _, s⟩ <;> rfl

end InPlace

end Bazaar
