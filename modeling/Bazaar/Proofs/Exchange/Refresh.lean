import Bazaar.Proofs.Exchange.Accounts
import Bazaar.Proofs.Exchange.Agreement
import Bazaar.Proofs.Window.Retained

/-! # The display after a gesture

A gesture that commits trades ends with one refresh. The trades themselves ran on the recipes that
were displayed before, and what they leave in the window is placed after each of them, so that the
window shows what it selects when the refresh compares it with the recipes of the shop.
-/

namespace Bazaar

variable {k : Shopkeeper} {settings : Settings} {payout : Payout} {g : Gesture} {n : Nat}
  {id : ActorId} {x x' : Exchange} {answer : GestureOutcome} {outcome : Outcome}
  {outcomes : List Outcome} {s s' : Session}

/-- The displayed recipes were not replaced between two states of a window. -/
structure Window.SameRecipes (w w' : Window) : Prop where
  recipes : w'.recipes = w.recipes
  updates : w'.updates = w.updates

namespace Window.SameRecipes

variable {w w' w'' : Window}

theorem refl (w : Window) : w.SameRecipes w := ⟨rfl, rfl⟩

theorem trans (h : w.SameRecipes w') (h' : w'.SameRecipes w'') : w.SameRecipes w'' :=
  ⟨h'.recipes.trans h.recipes, h'.updates.trans h.updates⟩

theorem place (w : Window) (o : Offered) : w.SameRecipes (w.place o) := ⟨rfl, rfl⟩

end Window.SameRecipes

/-! ## The trades of a gesture -/

section Trades

variable {σ : Type} [Storage σ] {scene scene' : Scene σ}

namespace Session

/-- An attempt places what remains of the offered stacks if it commits a trade, and leaves the
window alone if it does not. -/
theorem attempt_window (h : s.attempt k settings payout scene = (outcome, s', scene')) :
    (∀ d, outcome ≠ .committed d) ∧ scene'.window = scene.window ∨
      ∃ o, scene'.window = scene.window.place o := by
  rcases attempt_eq h with ⟨why, -, rfl, -, rfl⟩ | ⟨a, -, rfl, -, -, -, rfl⟩ |
    ⟨t, -, -, -, -, -, ht⟩
  · exact Or.inl ⟨by simp, rfl⟩
  · exact Or.inl ⟨by simp, rfl⟩
  · rcases carryOut_told ht with ⟨reason, rfl, -, hwindow⟩ | ⟨-, -, hwindow⟩
    · exact Or.inl ⟨by simp, hwindow⟩
    · exact Or.inr ⟨t.remaining, hwindow⟩

theorem Series.sameRecipes (h : Series k settings s scene outcomes s' scene') :
    scene.window.SameRecipes scene'.window := by
  induction h with
  | nil s scene => exact .refl _
  | cons _ _ ha _ ih =>
    rcases attempt_window ha with ⟨-, hw⟩ | ⟨o, hw⟩
    · exact hw ▸ ih
    · exact .trans (hw ▸ .place _ o) ih

/-- Whatever the window was like at first, a committed trade makes it consistent. -/
theorem Series.consistent {d : CommittedTrade}
    (h : Series k settings s scene (.committed d :: outcomes) s' scene') :
    scene'.window.Consistent := by
  cases h with
  | cons _ _ ha hrest =>
    rcases attempt_window ha with ⟨hne, -⟩ | ⟨o, hw⟩
    · exact absurd rfl (hne d)
    · have hconsistent := Window.consistent_place scene.window o
      rw [← hw] at hconsistent
      exact (hrest.agrees hconsistent).1.window

end Session

namespace Exchange

theorem sameRecipes_handle (h : x.handle id k g scene = (answer, x', scene'))
    (hidle : answer.commits = 0) : scene.window.SameRecipes scene'.window := by
  rcases handle_cases h with ⟨-, -, rfl⟩ | ⟨s, s', hs, -⟩
  · exact .refl _
  rcases Session.handle_cases hs with ⟨-, rfl⟩ | ⟨mid, commits, ending, hanswered, rfl, rfl⟩
  · exact .refl _
  · obtain rfl := List.length_eq_zero_iff.1 hidle
    exact hanswered.series.sameRecipes

theorem exists_refresh_of_handle (h : x.handle id k g scene = (.traded n, x', scene'))
    (hn : n ≠ 0) : ∃ (mid : Scene σ) (actor : ActorId), scene.window.SameRecipes mid.window ∧
      mid.window.Consistent ∧ scene' = mid.refresh k x.settings actor := by
  rcases handle_cases h with ⟨⟨why, hwhy⟩, -⟩ | ⟨s, s', hs, -⟩
  · cases hwhy
  rcases Session.handle_cases hs with
    ⟨hne, -⟩ | ⟨mid, commits, ending, hanswered, hcommits, rfl⟩
  · exact absurd rfl (hne n)
  obtain rfl := GestureOutcome.traded.inj hcommits
  have hseries := hanswered.series
  cases commits with
  | nil => exact absurd rfl hn
  | cons d commits => exact ⟨mid, s'.actor.id, hseries.sameRecipes, hseries.consistent, rfl⟩

end Exchange

end Trades

/-! ## The refresh -/

variable {scene scene' mid : Scene Container} {actor : ActorId}

def Scene.projection (k : Shopkeeper) (settings : Settings) (scene : Scene Container) :
    List Recipe :=
  k.shop.recipes settings.currency (visibleIn scene.container)

theorem Shopkeeper.recipes_eq_projection (k : Shopkeeper) (settings : Settings)
    (scene : Scene Container) :
    k.recipes settings.currency scene.container =
      (scene.projection k settings, scene.container.map (·.readMore 1)) := by
  unfold recipes
  rw [stockOf_eq_visibleIn]
  rfl

namespace Scene

theorem projection_refresh (scene : Scene Container) (k : Shopkeeper) (settings : Settings)
    (actor : ActorId) :
    (scene.refresh k settings actor).projection k settings = scene.projection k settings := by
  have hcontainer : (scene.refresh k settings actor).container =
      (k.recipes settings.currency scene.container).2 := rfl
  unfold projection
  rw [hcontainer, Shopkeeper.recipes_eq_projection, visibleIn_readMore]

theorem window_refresh_projection (scene : Scene Container) (k : Shopkeeper) (settings : Settings)
    (actor : ActorId) : (scene.refresh k settings actor).window =
      if scene.projection k settings = scene.window.recipes then scene.window
      else scene.window.update (scene.projection k settings) := by
  rw [window_refresh_eq, Shopkeeper.recipes_eq_projection]

theorem recipes_refresh (scene : Scene Container) (k : Shopkeeper) (settings : Settings)
    (actor : ActorId) : (scene.refresh k settings actor).window.recipes =
      redisplay scene.window.recipes (scene.projection k settings) := by
  rw [window_refresh_projection]
  split
  case isTrue hsame => rw [hsame, redisplay_self]
  case isFalse => rfl

theorem updates_refresh (scene : Scene Container) (k : Shopkeeper) (settings : Settings)
    (actor : ActorId) : (scene.refresh k settings actor).window.updates = scene.window.updates +
      if scene.projection k settings = scene.window.recipes then 0 else 1 := by
  rw [window_refresh_projection]
  split
  · rfl
  · rfl

theorem displays_refresh (hw : scene.window.Consistent) (k : Shopkeeper) (settings : Settings)
    (actor : ActorId) : (scene.refresh k settings actor).window.Displays
      ((scene.refresh k settings actor).projection k settings) := by
  rw [projection_refresh, window_refresh_projection]
  split
  case isTrue hsame => exact hsame ▸ hw.displays
  case isFalse => exact scene.window.displays_update _

end Scene

namespace Exchange

/-- After a gesture that has committed trades the window displays what the shop offers by then, and
at least as many recipes as before. Whatever it displays beyond that is out of stock and has no part
in the selection. -/
theorem displays_current_recipes (h : x.handle id k g scene = (.traded n, x', scene'))
    (hn : n ≠ 0) : scene.window.recipes.length ≤ scene'.window.recipes.length ∧
      scene'.window.Displays (scene'.projection k x.settings) := by
  obtain ⟨mid, actor, hsame, hconsistent, rfl⟩ := exists_refresh_of_handle h hn
  refine ⟨?_, Scene.displays_refresh hconsistent k x.settings actor⟩
  rw [Scene.recipes_refresh, length_redisplay, hsame.recipes]
  exact Nat.le_max_left _ _

def bookStall : Shopkeeper where
  profile := { id := .ofNat 0, name := "stall" }
  shop := .book [⟨"Atlas", 1⟩, ⟨"Herbal", 1⟩]

def originalOf (title : String) : Stack := Book.copyStack { title := some title } .original

def bookShelf : Container where
  contents :=
    [some (originalOf "Atlas"), some (originalOf "Herbal"), some (.plain writableBook 3), none]

def thinnedShelf : Container where
  contents := [some (originalOf "Atlas"), none, some (.plain writableBook 3), none]

def shelfReader : Scene Container where
  window := (Window.ofRecipes (.ofNat 1) (bookStall.recipes .standard (some bookShelf)).1).place
    { slot1 := some (.plain "emerald" 3) }
  inventory := {}
  container := some thinnedShelf
  listener := fun _ _ => .allow
  ids := .ofNat

def shelfExchange : Exchange :=
  openSession { settings := {} } { id := .ofNat 1, name := "reader" }

def shelfPickup (timestamp : UInt64) : Gesture where
  slot := resultSlot
  kind := .pickupAll
  timestamp

/-- The reader takes a copy of the atlas, and the herbal is no longer offered. -/
def firstCopy : GestureOutcome × Exchange × Scene Container :=
  shelfExchange.handle (.ofNat 1) bookStall (shelfPickup 0) shelfReader

theorem displays_current_recipes_firstCopy :
    firstCopy.1 = .traded 1 ∧ shelfReader.window.recipes.length = 2 ∧
      (firstCopy.2.2.projection bookStall {}).map (·.outOfStock) = [false] ∧
      firstCopy.2.2.window.recipes.map (·.outOfStock) = [false, true] ∧
      firstCopy.2.2.window.Displays (firstCopy.2.2.projection bookStall {}) := by
  have hsold : firstCopy.1 = .traded 1 := by decide
  have h : shelfExchange.handle (.ofNat 1) bookStall (shelfPickup 0) shelfReader =
      (.traded 1, firstCopy.2.1, firstCopy.2.2) := Prod.ext hsold rfl
  obtain ⟨-, hdisplays⟩ := displays_current_recipes h (by decide)
  exact ⟨hsold, by decide, by decide, by decide, hdisplays⟩

end Exchange

end Bazaar
