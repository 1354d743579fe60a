import Bazaar.Proofs.Session.Goods
import Bazaar.Proofs.Session.Series
import Mathlib.Logic.Relation

/-! # The steps of a gesture

Whatever a gesture does to a scene is made of two kinds of steps. One tries a trade whose payout
adds the displayed result to the inventory, the other displays the recipes anew.
-/

namespace Bazaar

open Relation

variable {σ : Type} [Storage σ] {k : Shopkeeper} {settings : Settings} {s s' : Session}
  {scene scene' : Scene σ} {g : Gesture} {answer : GestureOutcome}

/-- One step of a gesture. -/
inductive Scene.Step (k : Shopkeeper) (settings : Settings) : Scene σ → Scene σ → Prop
  | attempt {s s' : Session} {payout : Payout} {outcome : Outcome} {scene scene' : Scene σ}
      {result : Stack} (hr : scene.window.result = some result)
      (hp : scene.inventory.Payable result payout)
      (h : s.attempt k settings payout scene = (outcome, s', scene')) :
      Scene.Step k settings scene scene'
  | refresh (actor : ActorId) (scene : Scene σ) :
      Scene.Step k settings scene (scene.refresh k settings actor)

abbrev Scene.Steps (k : Shopkeeper) (settings : Settings) : Scene σ → Scene σ → Prop :=
  ReflTransGen (Scene.Step k settings)

namespace Scene

theorem window_refresh_eq (scene : Scene σ) (k : Shopkeeper) (settings : Settings)
    (actor : ActorId) : (scene.refresh k settings actor).window =
      if (k.recipes settings.currency scene.container).1 = scene.window.recipes then scene.window
      else scene.window.update (k.recipes settings.currency scene.container).1 :=
  rfl

theorem window_refresh (scene : Scene σ) (k : Shopkeeper) (settings : Settings)
    (actor : ActorId) :
    (scene.refresh k settings actor).window = scene.window ∨
      (scene.refresh k settings actor).window =
        scene.window.update (k.recipes settings.currency scene.container).1 := by
  rw [window_refresh_eq]
  split
  · exact Or.inl rfl
  · exact Or.inr rfl

theorem offered_refresh (scene : Scene σ) (k : Shopkeeper) (settings : Settings)
    (actor : ActorId) :
    (scene.refresh k settings actor).window.offered = scene.window.offered := by
  rcases window_refresh scene k settings actor with h | h
  · rw [h]
  · rw [h]
    rfl

theorem forall_mem_refresh {p : Recipe → Prop} (hflag : ∀ r, p r → p (r.flagged true))
    (h : ∀ r ∈ scene.window.recipes, p r)
    (hk : ∀ r ∈ (k.recipes settings.currency scene.container).1, p r) (actor : ActorId) :
    ∀ r ∈ (scene.refresh k settings actor).window.recipes, p r := by
  rcases window_refresh scene k settings actor with hw | hw
  · rw [hw]
    exact h
  · rw [hw]
    exact Window.forall_mem_update hflag h hk

end Scene

namespace Session

theorem Series.steps {outcomes : List Outcome}
    (h : Series k settings s scene outcomes s' scene') : Scene.Steps k settings scene scene' := by
  induction h with
  | nil => exact .refl
  | cons hr hp ha _ ih => exact .head (.attempt hr hp ha) ih

theorem steps_handle (h : s.handle k settings g scene = (answer, s', scene')) :
    Scene.Steps k settings scene scene' := by
  rcases handle_cases h with ⟨-, rfl⟩ | ⟨mid, commits, ending, hanswered, -, rfl⟩
  · exact .refl
  have hsteps := hanswered.series.steps
  split
  · exact hsteps
  · exact hsteps.tail (.refresh s'.actor.id mid)

end Session

namespace Exchange

variable {x x' : Exchange} {id : ActorId}

/-- Every gesture takes its scene along steps. -/
theorem steps_handle (h : x.handle id k g scene = (answer, x', scene')) :
    Scene.Steps k x.settings scene scene' := by
  rcases handle_cases h with ⟨-, -, rfl⟩ | ⟨s, s', hs, -⟩
  · exact .refl
  · exact Session.steps_handle hs

theorem settings_handle (h : x.handle id k g scene = (answer, x', scene')) :
    x'.settings = x.settings := by
  rcases handle_cases h with ⟨-, rfl, -⟩ | ⟨s, s', -, rfl⟩
  · rfl
  · rfl

end Exchange

end Bazaar
