import Bazaar.Proofs.Session.Parallel

/-! # Relabelled scenes

Trade ids take no part in a trade. Scenes that share their container and differ in their supplies of
trade ids go through the same trades, as long as their listeners answer alike on trades that differ
in their ids.
-/

namespace Bazaar

variable {σ : Type} {ρ : TradeId → TradeId → Prop} {k : Shopkeeper} {settings : Settings}
  {payout : Payout} {outcome : Outcome} {scene scene' twin : Scene σ} {t : Trade}
  {i : TradeId} {e e' : Event} {actor : Actor}

/-- Two scenes are alike in front of one container, and their listeners answer alike. -/
structure Scene.Relabelled (ρ : TradeId → TradeId → Prop) (scene twin : Scene σ) : Prop where
  alike : scene.Alike ρ twin
  container : twin.container = scene.container
  listener : ∀ {reviews reviews' t t'}, List.Forall₂ (PendingTrade.Alike ρ) reviews reviews' →
    t.Alike ρ t' → twin.listener reviews' t' = scene.listener reviews t

theorem PendingTrade.eq_of_alike {t t' : PendingTrade} (h : t.Alike (· = ·) t') : t = t' := by
  rw [h.rest, ← h.id]

theorem Scene.relabelled_self (scene : Scene σ) : scene.Relabelled (· = ·) scene where
  alike := ⟨rfl, rfl, fun _ => rfl, Journal.alike_self (fun _ => rfl) _⟩
  container := rfl
  listener hreviews ht := by
    have heq := hreviews.imp fun _ _ h => PendingTrade.eq_of_alike h
    rw [List.forall₂_eq_eq_eq] at heq
    rw [heq, PendingTrade.eq_of_alike ht]

namespace Scene.Relabelled

theorem issue (h : scene.Relabelled ρ twin) : scene.issue.Relabelled ρ twin.issue :=
  ⟨h.alike.issue, h.container, h.listener⟩

theorem emit (h : scene.Relabelled ρ twin) (he : e.Alike ρ e') :
    (scene.emit e).Relabelled ρ (twin.emit e') :=
  ⟨h.alike.emit he, h.container, h.listener⟩

theorem abort (h : scene.Relabelled ρ twin) (hi : ρ t.id i) (reason : AbortReason) :
    (scene.abort t reason).Relabelled ρ (twin.abort (t.withId i) reason) :=
  ⟨h.alike.abort hi reason, h.container, h.listener⟩

theorem apply (h : scene.Relabelled ρ twin) (hi : ρ t.id i) :
    (scene.apply t).Relabelled ρ (twin.apply (t.withId i)) :=
  ⟨h.alike.apply hi, h.container, h.listener⟩

theorem review {verdict : Verdict} (h : scene.Relabelled ρ twin) (hi : ρ t.id i)
    (hv : scene.review t.pending = (verdict, scene')) :
    ∃ twin', twin.review (t.withId i).pending = (verdict, twin') ∧ scene'.Relabelled ρ twin' := by
  obtain ⟨rfl, rfl⟩ := Prod.mk.inj hv
  have ht := t.alike_pending hi
  have hj := h.alike.journal
  refine ⟨_, Prod.ext (h.listener hj.reviews ht) rfl, ?_, h.container, h.listener⟩
  exact ⟨h.alike.window, h.alike.inventory, h.alike.ids,
    { hj with reviews := List.rel_append hj.reviews (.cons ht .nil) }⟩

theorem replace (h : scene.Relabelled ρ twin) (window : Window) (inventory : Inventory)
    (container : Option σ) :
    Relabelled ρ { scene with window, inventory, container }
      { twin with window, inventory, container } :=
  ⟨⟨rfl, rfl, h.alike.ids, h.alike.journal⟩, rfl, h.listener⟩

theorem refresh [Storage σ] (h : scene.Relabelled ρ twin) (k : Shopkeeper) (settings : Settings)
    (actor : ActorId) :
    (scene.refresh k settings actor).Relabelled ρ (twin.refresh k settings actor) := by
  unfold Scene.refresh
  rw [h.container, h.alike.window]
  rw [h.alike.inventory]
  exact emit (h.replace _ scene.inventory _) (.recipesChanged k.profile.id actor)

end Scene.Relabelled

variable [Storage σ]

theorem Shopkeeper.prepare_withId (container : Option σ) :
    k.prepare settings (t.withId i) container =
      ((k.prepare settings t container).1.map (·.withId i),
        (k.prepare settings t container).2) := by
  have hactor : (t.withId i).actor = t.actor := rfl
  have hdeal : (t.withId i).deal = t.deal := rfl
  rw [prepare_eq, prepare_eq, hactor, hdeal]
  split
  · rfl
  split
  · split
    · rfl
    split
    · rfl
    · rfl
  · split
    · rfl
    · rfl

namespace Session

theorem commit_relabelled (hr : scene.Relabelled ρ twin) (hi : ρ t.id i)
    (h : commit t payout scene = (outcome, scene')) :
    ∃ outcome' twin', commit (t.withId i) payout twin = (outcome', twin') ∧
      outcome.Alike ρ outcome' ∧ scene'.Relabelled ρ twin' := by
  have heffects : (t.withId i).commitEffects twin.container = t.commitEffects scene.container := by
    rw [hr.container]
    rfl
  have hremaining : (t.withId i).remaining = t.remaining := rfl
  unfold commit at h ⊢
  rw [heffects, hr.alike.inventory, hr.alike.window, hremaining]
  split at h
  case h_1 container _ =>
    cases h
    have hr₁ := hr.replace scene.window scene.inventory container
    exact ⟨_, _, rfl, .aborted _, hr₁.abort hi .storageWriteFailed⟩
  case h_2 container _ =>
    split at h
    case h_1 =>
      cases h
      have hr₁ := hr.replace scene.window scene.inventory (t.rollbackEffects container).2
      exact ⟨_, _, rfl, .aborted _, hr₁.abort hi .storageWriteFailed⟩
    case h_2 inventory _ =>
      cases h
      refine ⟨_, _, rfl, .committed (t.alike_committed hi), ?_⟩
      exact (hr.replace _ inventory container).apply hi

theorem carryOut_relabelled (hr : scene.Relabelled ρ twin) (hi : ρ t.id i)
    (h : carryOut k settings t payout scene = (outcome, scene')) :
    ∃ outcome' twin', carryOut k settings (t.withId i) payout twin = (outcome', twin') ∧
      outcome.Alike ρ outcome' ∧ scene'.Relabelled ρ twin' := by
  rw [carryOut_eq] at h ⊢
  rw [hr.container, Shopkeeper.prepare_withId, hr.alike.window, hr.alike.inventory]
  split at h
  case h_1 reason container hp =>
    rw [hp]
    cases h
    have hr₁ := hr.replace scene.window scene.inventory container
    exact ⟨_, _, rfl, .aborted reason, hr₁.abort hi reason⟩
  case h_2 t' container hp =>
    obtain ⟨staged, rfl⟩ := Shopkeeper.eq_of_prepare_ok hp
    have hi' : ρ (Trade.id { t with staged }) i := hi
    have hr₁ := hr.replace scene.window scene.inventory container
    rw [hp]
    dsimp only [Except.map]
    split at h
    case h_1 hreview =>
      obtain ⟨twin₁, hreview', hr₂⟩ := hr₁.review hi' hreview
      rw [hreview']
      cases h
      exact ⟨_, _, rfl, .aborted .vetoed, hr₂.abort hi .vetoed⟩
    case h_2 hreview =>
      obtain ⟨twin₁, hreview', hr₂⟩ := hr₁.review hi' hreview
      rw [hreview']
      exact commit_relabelled hr₂ hi' h

/-- No actor can tell relabelled scenes apart. -/
theorem parallel_relabelled (k : Shopkeeper) (settings : Settings) (actor : Actor)
    (ρ : TradeId → TradeId → Prop) :
    Parallel k settings actor ρ (Scene.Relabelled ρ : Scene σ → Scene σ → Prop) where
  alike h := h.alike
  attempt _ hr h := by
    refine attempt_parallel hr.alike.window hr.alike.nextId hr.emit ?_ hr h
    intro t i outcome scene' _ hi h
    exact carryOut_relabelled hr.issue hi h
  refresh _ _ _ hr := hr.refresh k settings _

end Session

end Bazaar
