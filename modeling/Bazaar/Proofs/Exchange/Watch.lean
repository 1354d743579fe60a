import Bazaar.Proofs.Exchange.Refresh

/-! # Refreshes of a watched window

A refresh replaces the displayed recipes if they differ from those that the shop offers. While the
window retains recipes that are no longer offered they always differ, and every refresh replaces
the list by itself.
-/

namespace Bazaar

variable {k : Shopkeeper} {id : ActorId} {x x' x₁ x₂ : Exchange}
  {scene scene' scene₁ scene₂ : Scene Container} {offers : List (List Recipe)}
  {offered : List Recipe} {g : Gesture} {n : Nat}

namespace Exchange

/-- A run of gestures on one window, with the recipes that the shop offered at each refresh. Between
the gestures the host may change everything but the settings and the displayed recipes. -/
inductive Watch (k : Shopkeeper) (id : ActorId) :
    Exchange → Scene Container → List (List Recipe) → Exchange → Scene Container → Prop
  | nil (x : Exchange) (scene : Scene Container) : Watch k id x scene [] x scene
  | refresh {x x' x'' : Exchange} {scene scene' scene'' : Scene Container}
      {offers : List (List Recipe)} (g : Gesture) {n : Nat}
      (h : x.handle id k g scene = (.traded n, x', scene')) (hn : n ≠ 0)
      (rest : Watch k id x' scene' offers x'' scene'') :
      Watch k id x scene (scene'.projection k x.settings :: offers) x'' scene''
  | idle {x x' x'' : Exchange} {scene scene' scene'' : Scene Container}
      {offers : List (List Recipe)} (g : Gesture) {answer : GestureOutcome}
      (h : x.handle id k g scene = (answer, x', scene')) (hidle : answer.commits = 0)
      (rest : Watch k id x' scene' offers x'' scene'') : Watch k id x scene offers x'' scene''
  | host {x x' x'' : Exchange} {scene scene' scene'' : Scene Container}
      {offers : List (List Recipe)} (settings : x'.settings = x.settings)
      (recipes : scene'.window.recipes = scene.window.recipes)
      (rest : Watch k id x' scene' offers x'' scene'') : Watch k id x scene offers x'' scene''

theorem refresh_handle (h : x.handle id k g scene = (.traded n, x', scene')) (hn : n ≠ 0) :
    scene'.window.recipes = redisplay scene.window.recipes (scene'.projection k x.settings) ∧
      scene'.window.updates = scene.window.updates +
        if scene'.projection k x.settings = scene.window.recipes then 0 else 1 := by
  obtain ⟨mid, actor, hsame, -, rfl⟩ := exists_refresh_of_handle h hn
  rw [Scene.projection_refresh, Scene.recipes_refresh, Scene.updates_refresh, hsame.recipes,
    hsame.updates]
  exact ⟨rfl, rfl⟩

namespace Watch

/-- The displayed list has gone through all lists that were offered. -/
theorem recipes_eq (h : Watch k id x scene offers x' scene') :
    scene'.window.recipes = offers.foldl redisplay scene.window.recipes := by
  induction h with
  | nil => rfl
  | refresh g h hn _ ih => rw [ih, (refresh_handle h hn).1, List.foldl_cons]
  | idle g h hidle _ ih => rw [ih, (sameRecipes_handle h hidle).recipes]
  | host settings recipes _ ih => rw [ih, recipes]

theorem exists_stock (h : Watch k id x scene offers x' scene') :
    ∀ rs ∈ offers, ∃ stock, rs = k.shop.recipes x.settings.currency stock := by
  induction h with
  | nil => simp
  | refresh g h hn _ ih =>
    rw [settings_handle h] at ih
    exact List.forall_mem_cons.2 ⟨⟨_, rfl⟩, ih⟩
  | idle g h hidle _ ih => rwa [settings_handle h] at ih
  | host settings recipes _ ih => rwa [settings] at ih

theorem length_eq (h : Watch k id x scene offers x' scene') (hk : k.shop.kind ≠ .book)
    (stock : Option Slots) :
    ∀ rs ∈ offers, rs.length = (k.shop.recipes x.settings.currency stock).length := by
  intro rs hrs
  obtain ⟨stock', rfl⟩ := h.exists_stock rs hrs
  exact Shop.length_recipes_eq _ _ _ hk

theorem recipes_eq_of_append (h : Watch k id x scene (offers ++ [offered]) x' scene') :
    scene'.window.recipes =
      redisplay (offers.foldl redisplay scene.window.recipes) offered := by
  rw [h.recipes_eq, List.foldl_append, List.foldl_cons, List.foldl_nil]

/-- A window displays nothing more than was offered last exactly if it never displayed a longer
list. -/
theorem displayed_iff (h : Watch k id x scene (offers ++ [offered]) x' scene') :
    scene'.window.recipes = offered ↔
      ∀ rs ∈ scene.window.recipes :: offers, rs.length ≤ offered.length := by
  rw [h.recipes_eq_of_append, redisplay_eq_iff, length_foldl_redisplay_le_iff]

/-- Let a shop offer the same recipes at two refreshes, one after the other. The second one displays
the same list as the first, and leaves the window alone unless it displayed a longer list before, at
first or after an earlier refresh. Then it replaces the displayed list by itself. A shop that copies
no books never offers fewer recipes than the window was opened with, and so its window is always
left alone. -/
theorem updates_of_same_offer (h : Watch k id x scene (offers ++ [offered]) x₁ scene₁)
    (hg : x₁.handle id k g scene₁ = (.traded n, x₂, scene₂)) (hn : n ≠ 0)
    (hsame : scene₂.projection k x₁.settings = offered) :
    scene₂.window.recipes = scene₁.window.recipes ∧
    (scene₂.window.updates = scene₁.window.updates ∧
        (∀ rs ∈ scene.window.recipes :: offers, rs.length ≤ offered.length) ∨
      scene₂.window.updates = scene₁.window.updates + 1 ∧
        ∃ rs ∈ scene.window.recipes :: offers, offered.length < rs.length) ∧
    (k.shop.kind ≠ .book →
      (∃ stock, scene.window.recipes = k.shop.recipes x.settings.currency stock) →
        scene₂.window.updates = scene₁.window.updates) := by
  obtain ⟨hrecipes, hupdates⟩ := refresh_handle hg hn
  rw [hsame] at hrecipes hupdates
  have hdisplayed := h.displayed_iff
  have hcases : scene₂.window.updates = scene₁.window.updates ∧
        (∀ rs ∈ scene.window.recipes :: offers, rs.length ≤ offered.length) ∨
      scene₂.window.updates = scene₁.window.updates + 1 ∧
        ∃ rs ∈ scene.window.recipes :: offers, offered.length < rs.length := by
    by_cases hfits : scene₁.window.recipes = offered
    · rw [if_pos hfits.symm] at hupdates
      exact Or.inl ⟨hupdates, hdisplayed.1 hfits⟩
    · rw [if_neg (Ne.symm hfits)] at hupdates
      rw [hdisplayed] at hfits
      push Not at hfits
      exact Or.inr ⟨hupdates, hfits⟩
  refine ⟨?_, hcases, ?_⟩
  · rw [hrecipes, h.recipes_eq_of_append, redisplay_redisplay]
  · rintro hk ⟨stock, hopened⟩
    have hlength := h.length_eq hk stock
    rcases hcases with ⟨hkept, -⟩ | ⟨-, rs, hrs, hlt⟩
    · exact hkept
    · rw [hlength offered (by simp)] at hlt
      rcases List.mem_cons.1 hrs with rfl | hrs
      · rw [hopened] at hlt
        exact absurd hlt (Nat.lt_irrefl _)
      · rw [hlength rs (by simp [hrs])] at hlt
        exact absurd hlt (Nat.lt_irrefl _)

def fullShelfReader : Scene Container := { shelfReader with container := some bookShelf }

def fullShelf₁ : GestureOutcome × Exchange × Scene Container :=
  shelfExchange.handle (.ofNat 1) bookStall (shelfPickup 0) fullShelfReader

def fullShelf₂ : GestureOutcome × Exchange × Scene Container :=
  fullShelf₁.2.1.handle (.ofNat 1) bookStall (shelfPickup 1000) fullShelf₁.2.2

theorem updates_of_same_offer_fullShelf :
    fullShelf₁.1 = .traded 1 ∧ fullShelf₂.1 = .traded 1 ∧
      fullShelf₁.2.2.projection bookStall {} = fullShelfReader.window.recipes ∧
      fullShelf₂.2.2.window.recipes = fullShelf₁.2.2.window.recipes ∧
      fullShelf₂.2.2.window.updates = fullShelf₁.2.2.window.updates := by
  have hfirst : fullShelf₁.1 = .traded 1 := by decide
  have hsecond : fullShelf₂.1 = .traded 1 := by decide
  have hwatch : Watch bookStall (.ofNat 1) shelfExchange fullShelfReader
      ([] ++ [fullShelf₁.2.2.projection bookStall {}]) fullShelf₁.2.1 fullShelf₁.2.2 :=
    .refresh (shelfPickup 0) (Prod.ext hfirst rfl) (by decide) (.nil _ _)
  obtain ⟨hrecipes, ⟨hkept, -⟩ | ⟨-, hlonger⟩, -⟩ :=
    updates_of_same_offer hwatch (Prod.ext hsecond rfl) (by decide) (by decide)
  · exact ⟨hfirst, hsecond, by decide, hrecipes, hkept⟩
  · exact absurd hlonger (by decide)

def secondCopy : GestureOutcome × Exchange × Scene Container :=
  firstCopy.2.1.handle (.ofNat 1) bookStall (shelfPickup 1000) firstCopy.2.2

/-- Not every refresh that replaces the displayed recipes was needed: the herbal that was taken away
stays in the window, which is never again like the offer of the shop. -/
theorem exists_update_without_change :
    ¬ ∀ (k : Shopkeeper) (id : ActorId) (x x₁ x₂ : Exchange) (scene scene₁ scene₂ : Scene Container)
      (offers : List (List Recipe)) (offered : List Recipe) (g : Gesture) (n : Nat),
      (∃ stock, scene.window.recipes = k.shop.recipes x.settings.currency stock) →
      Watch k id x scene (offers ++ [offered]) x₁ scene₁ →
      x₁.handle id k g scene₁ = (.traded n, x₂, scene₂) → n ≠ 0 →
      scene₂.projection k x₁.settings = offered →
        scene₂.window.updates = scene₁.window.updates := by
  intro h
  have hfirst : firstCopy.1 = .traded 1 := by decide
  have hsecond : secondCopy.1 = .traded 1 := by decide
  have hwatch : Watch bookStall (.ofNat 1) shelfExchange shelfReader
      ([] ++ [firstCopy.2.2.projection bookStall {}]) firstCopy.2.1 firstCopy.2.2 :=
    .refresh (shelfPickup 0) (Prod.ext hfirst rfl) (by decide) (.nil _ _)
  have hupdates := h bookStall (.ofNat 1) shelfExchange firstCopy.2.1 secondCopy.2.1 shelfReader
    firstCopy.2.2 secondCopy.2.2 [] _ (shelfPickup 1000) 1 ⟨some bookShelf.contents, rfl⟩ hwatch
    (Prod.ext hsecond rfl) (by decide) (by decide)
  exact absurd hupdates (by decide)

end Watch

end Exchange

end Bazaar
