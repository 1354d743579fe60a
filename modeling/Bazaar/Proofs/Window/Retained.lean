import Bazaar.Proofs.Window.Consistency

/-! # Retained recipes

A window whose recipes are replaced by fewer ones keeps the others at the end of its list, out of
stock. They take no part in the selection, but they count for the length of the list, which is that
of the longest list so far.
-/

namespace Bazaar

variable {o : Offered} {w : Window} {recipes displayed retained : List Recipe} {n : Nat}

/-! ## Lists -/

/-- The list that a window displays once the displayed one was replaced. -/
def redisplay (displayed recipes : List Recipe) : List Recipe :=
  recipes ++ (displayed.drop recipes.length).map (·.flagged true)

theorem recipes_update (w : Window) (recipes : List Recipe) :
    (w.update recipes).recipes = redisplay w.recipes recipes :=
  rfl

theorem length_redisplay (displayed recipes : List Recipe) :
    (redisplay displayed recipes).length = max displayed.length recipes.length := by
  simp only [redisplay, List.length_append, List.length_map, List.length_drop]
  omega

theorem redisplay_eq_iff : redisplay displayed recipes = recipes ↔
    displayed.length ≤ recipes.length := by
  simp [redisplay]

theorem redisplay_self (recipes : List Recipe) : redisplay recipes recipes = recipes :=
  redisplay_eq_iff.2 (Nat.le_refl _)

theorem redisplay_redisplay (displayed recipes : List Recipe) :
    redisplay (redisplay displayed recipes) recipes = redisplay displayed recipes := by
  simp [redisplay, Function.comp_def, Recipe.flagged]

theorem length_foldl_redisplay_le_iff {rss : List (List Recipe)} :
    (rss.foldl redisplay displayed).length ≤ n ↔ ∀ rs ∈ displayed :: rss, rs.length ≤ n := by
  induction rss generalizing displayed with
  | nil => simp
  | cons rs rss ih =>
    rw [List.foldl_cons, ih]
    simp only [List.forall_mem_cons, length_redisplay, Nat.max_le, and_assoc]

/-! ## Selection -/

theorem activeFrom_eq_none (hout : ∀ r ∈ retained, r.outOfStock = true) (i : Nat) :
    activeFrom o i retained = none := by
  induction retained generalizing i with
  | nil => rfl
  | cons r rs ih =>
    obtain ⟨hr, hrs⟩ := List.forall_mem_cons.1 hout
    rw [activeFrom, if_pos hr]
    exact ih hrs (i + 1)

/-- Recipes that are out of stock are never selected, and behind all others they do not change the
places that are counted. -/
theorem activeFrom_append (hout : ∀ r ∈ retained, r.outOfStock = true) (i : Nat) :
    activeFrom o i (recipes ++ retained) = activeFrom o i recipes := by
  induction recipes generalizing i with
  | nil => exact activeFrom_eq_none hout i
  | cons r rs ih =>
    simp only [List.cons_append, activeFrom, ih]

namespace Window

/-- A window displays some recipes, before others that are out of stock. It selects and shows what
it would if it displayed only them. -/
structure Displays (w : Window) (recipes : List Recipe) : Prop where
  retained : ∃ retained, w.recipes = recipes ++ retained ∧ ∀ r ∈ retained, r.outOfStock = true
  selected : active? w.recipes w.offered = active? recipes w.offered
  shown : w.result = (active? recipes w.offered).map (·.recipe.result)

theorem displays_of_append (hw : w.recipes = recipes ++ retained)
    (hout : ∀ r ∈ retained, r.outOfStock = true)
    (hshown : w.result = (active? w.recipes w.offered).map (·.recipe.result)) :
    w.Displays recipes := by
  have hselected : active? w.recipes w.offered = active? recipes w.offered := by
    rw [hw]
    exact activeFrom_append hout 0
  exact ⟨⟨retained, hw, hout⟩, hselected, hselected ▸ hshown⟩

theorem Consistent.displays (hw : w.Consistent) : w.Displays w.recipes :=
  displays_of_append (List.append_nil _).symm (by simp) hw.shown

theorem displays_update (w : Window) (recipes : List Recipe) :
    (w.update recipes).Displays recipes := by
  refine displays_of_append (recipes_update w recipes) (fun r hr => ?_) rfl
  obtain ⟨r', -, rfl⟩ := List.mem_map.1 hr
  rfl

end Window

end Bazaar
