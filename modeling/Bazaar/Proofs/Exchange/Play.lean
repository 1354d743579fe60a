import Bazaar.Proofs.Session.Parallel
import Bazaar.Scenario.Replay

/-! # Played gestures

An exchange answers gestures one after the other. Where single attempts cannot tell two alike scenes
apart, the same gestures can be played on both with the same outcomes.
-/

namespace Bazaar.Exchange

variable {σ τ : Type} [Storage σ] [Storage τ] {R : Scene σ → Scene τ → Prop}
  {ρ : TradeId → TradeId → Prop} {k : Shopkeeper} {id : ActorId} {x x' : Exchange} {g : Gesture}
  {gestures : List Gesture} {n : Nat} {answer : GestureOutcome} {played : List PlayedGesture}
  {scene scene' : Scene σ} {twin : Scene τ}

theorem play_cons (h : x.play k id n (g :: gestures) scene = (played, x', scene')) :
    ∃ outcome x₁ scene₁ rest, x.handle id k g scene = (outcome, x₁, scene₁) ∧
      x₁.play k id (n + 1) gestures scene₁ = (rest, x', scene') ∧
      played = { index := n, gesture := g, outcome } :: rest := by
  rw [play] at h
  rcases hg : x.handle id k g scene with ⟨outcome, x₁, scene₁⟩
  rw [hg] at h
  rcases hrest : x₁.play k id (n + 1) gestures scene₁ with ⟨rest, x₂, scene₂⟩
  simp only [hrest] at h
  cases h
  exact ⟨outcome, x₁, scene₁, rest, rfl, hrest, rfl⟩

/-- The attempts of an actor's session, if there is one, keep up a relation between scenes. -/
def Parallel (x : Exchange) (id : ActorId) (k : Shopkeeper)
    (ρ : TradeId → TradeId → Prop) (R : Scene σ → Scene τ → Prop) : Prop :=
  ∀ s, x.sessions id = some s → Session.Parallel k x.settings s.actor ρ R

theorem handle_parallel (hr : R scene twin)
    (hsession : ∀ s, x.sessions id = some s → twin.window = scene.window ∧
      (scene.window.isOpenFor s.actor.id = true →
        ∀ {answer s' scene'}, s.handle k x.settings g scene = (answer, s', scene') →
          ∃ twin', s.handle k x.settings g twin = (answer, s', twin') ∧ R scene' twin'))
    (h : x.handle id k g scene = (answer, x', scene')) :
    ∃ twin', x.handle id k g twin = (answer, x', twin') ∧ R scene' twin' := by
  cases hs : x.sessions id with
  | none =>
    simp only [Exchange.handle, hs] at h ⊢
    cases h
    exact ⟨twin, rfl, hr⟩
  | some s =>
    obtain ⟨hwindow, hhandle⟩ := hsession s hs
    simp only [Exchange.handle, hs, hwindow] at h ⊢
    by_cases hclosed : (!scene.window.isOpenFor s.actor.id) = true
    · rw [if_pos hclosed] at h ⊢
      cases h
      exact ⟨twin, rfl, hr⟩
    · rw [if_neg hclosed] at h ⊢
      rcases hh : s.handle k x.settings g scene with ⟨answer₁, s₁, scene₁⟩
      obtain ⟨twin₁, htwin, hr₁⟩ := hhandle (by simpa using hclosed) hh
      rw [hh] at h
      cases h
      exact ⟨twin₁, by rw [htwin], hr₁⟩

theorem Parallel.handle (hp : x.Parallel id k ρ R) (hr : R scene twin)
    (h : x.handle id k g scene = (answer, x', scene')) :
    x'.Parallel id k ρ R ∧
      ∃ twin', x.handle id k g twin = (answer, x', twin') ∧ R scene' twin' := by
  constructor
  · rcases handle_session h with ⟨-, rfl, -⟩ | ⟨s, s₁, hs, hh, rfl⟩
    · exact hp
    · intro s' hs'
      have hs₁ : s' = s₁ := by simpa [withSession, eq_comm] using hs'
      have hactor := congrArg Session.actor (Session.session_of_handle hh)
      rw [hs₁, hactor]
      exact hp s hs
  · refine handle_parallel hr (fun s hs => ?_) h
    exact ⟨((hp s hs).alike hr).window, fun _ => (hp s hs).handle rfl hr⟩

theorem play_cons_eq {outcome : GestureOutcome} {x₁ : Exchange} {scene₁ : Scene σ}
    {rest : List PlayedGesture} (h : x.handle id k g scene = (outcome, x₁, scene₁))
    (hrest : x₁.play k id (n + 1) gestures scene₁ = (rest, x', scene')) :
    x.play k id n (g :: gestures) scene =
      ({ index := n, gesture := g, outcome } :: rest, x', scene') := by
  rw [play, h]
  simp only [hrest]

/-- On related scenes the same gestures have the same outcomes and lead to related scenes. -/
theorem Parallel.play (hp : x.Parallel id k ρ R) (hr : R scene twin)
    (h : x.play k id n gestures scene = (played, x', scene')) :
    ∃ twin', x.play k id n gestures twin = (played, x', twin') ∧ R scene' twin' := by
  induction gestures generalizing n x scene twin played with
  | nil =>
    cases h
    exact ⟨twin, rfl, hr⟩
  | cons g gestures ih =>
    obtain ⟨outcome, x₁, scene₁, rest, hg, hrest, rfl⟩ := play_cons h
    obtain ⟨hp₁, twin₁, htwin, hr₁⟩ := hp.handle hr hg
    obtain ⟨twin₂, htwin', hr₂⟩ := ih hp₁ hr₁ hrest
    exact ⟨twin₂, play_cons_eq htwin htwin', hr₂⟩

end Bazaar.Exchange
