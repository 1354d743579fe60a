import Bazaar.Proofs.Session.Terms

/-! # Consistent windows

A window that shows the result of the recipe that it selects asks for a deal that can be matched, or
for nothing. Under strict comparison it may show a result that the offered stacks do not pay for,
since it selects recipes under lenient comparison.
-/

namespace Bazaar

variable {w : Window} {c : Comparison}

/-- The offered slots hold no empty stacks, and the result is the one of the selected recipe. -/
structure Window.Consistent (w : Window) : Prop where
  slot1 : ∀ s, w.offered.slot1 = some s → s.isEmpty = false
  slot2 : ∀ s, w.offered.slot2 = some s → s.isEmpty = false
  shown : w.result = (active? w.recipes w.offered).map (·.recipe.result)

theorem isEmpty_of_nonEmpty?_eq {slot : Option Stack} {s : Stack} (h : nonEmpty? slot = some s) :
    s.isEmpty = false :=
  (nonEmpty?_eq_some_iff.1 h).2

namespace Window

theorem consistent_reselect (h1 : ∀ s, w.offered.slot1 = some s → s.isEmpty = false)
    (h2 : ∀ s, w.offered.slot2 = some s → s.isEmpty = false) : w.reselect.Consistent :=
  ⟨h1, h2, rfl⟩

theorem consistent_place (w : Window) (o : Offered) : (w.place o).Consistent :=
  consistent_reselect (fun _ => isEmpty_of_nonEmpty?_eq) (fun _ => isEmpty_of_nonEmpty?_eq)

theorem Consistent.setOffered (hw : w.Consistent) (slot : Int32) (stack : Option Stack) :
    (w.setOffered slot stack).Consistent := by
  unfold Window.setOffered
  split
  · exact consistent_reselect (fun _ => isEmpty_of_nonEmpty?_eq) hw.slot2
  split
  · exact consistent_reselect hw.slot1 (fun _ => isEmpty_of_nonEmpty?_eq)
  · exact hw

theorem Consistent.update (hw : w.Consistent) (recipes : List Recipe) :
    (w.update recipes).Consistent :=
  consistent_reselect hw.slot1 hw.slot2

/-- A consistent window that shows a result asks for a deal, unless the recipe that it has selected
is not paid for under strict comparison. -/
theorem Consistent.select (hw : w.Consistent) (c : Comparison) :
    w.result = none ∧ w.select c = .idle .emptyResult ∨
      (∃ d order, w.select c = .matched d order) ∨
      c ≠ .lenient ∧ w.select c = .idle .noMatch := by
  unfold Window.select
  rw [hw.shown]
  cases ha : active? w.recipes w.offered with
  | none => exact Or.inl ⟨rfl, rfl⟩
  | some a =>
    right
    obtain ⟨index, hselects⟩ := selects_of_activeFrom ha
    simp only [Option.map_some, ne_eq, not_true, if_false]
    cases hm : a.recipe.match? w.offered c with
    | none =>
      right
      refine ⟨?_, rfl⟩
      rintro rfl
      have hpaid := hselects.paid
      rw [hm] at hpaid
      cases hpaid
    | some order =>
      left
      obtain ⟨first, second, harrange, -⟩ := Recipe.exists_metBy hm
      refine ⟨{ recipe := a.recipe, first, second }, order, ?_⟩
      simp only [harrange]

end Window

end Bazaar
