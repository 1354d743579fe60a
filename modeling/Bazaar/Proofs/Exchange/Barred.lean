import Bazaar.Proofs.Exchange.Accounts
import Bazaar.Proofs.Exchange.Play

/-! # Barred actors

The owner rules come before everything that touches the container. An actor whom they bar gets
nothing out of a shop with a container, and learns nothing of what the container holds or whether it
can be reached: all that a gesture does is to tell of trades that were refused.
-/

namespace Bazaar

variable {σ τ : Type} {ρ : TradeId → TradeId → Prop} {k : Shopkeeper}
  {settings : Settings} {reason : AbortReason} {t : Trade} {payout : Payout} {outcome : Outcome}
  {outcomes : List Outcome} {s s' : Session} {scene scene' scene'' : Scene σ} {g : Gesture}
  {gestures : List Gesture} {n : Nat} {answer : GestureOutcome} {actor : Actor} {x x' : Exchange}
  {id : ActorId} {played : List PlayedGesture}

/-- The owner rules keep an actor from trading with a shop that has a container. -/
structure Shopkeeper.Bars (k : Shopkeeper) (settings : Settings) (actor : Actor)
    (reason : AbortReason) : Prop where
  container : k.shop.usesContainer = true
  rules : k.profile.ownerCheck actor settings = .error reason

theorem Shopkeeper.Bars.precheck (h : k.Bars settings actor reason) :
    k.shop.precheck k.profile actor settings = .error reason := by
  have hu := h.container
  cases hs : k.shop with
  | admin => rw [hs] at hu; cases hu
  | selling | buying | trading | book => exact h.rules

/-- Between two scenes nothing has happened but refusals, for some reason or because the display was
inconsistent. -/
structure Scene.Spared (reason : AbortReason) (scene scene' : Scene σ) : Prop where
  window : scene'.window = scene.window
  inventory : scene'.inventory = scene.inventory
  container : scene'.container = scene.container
  reviews : scene'.journal.reviews = scene.journal.reviews
  applied : scene'.journal.applied = scene.journal.applied
  events : ∃ aborts : List AbortedTrade,
    scene'.journal.events = scene.journal.events ++ aborts.map .aborted ∧
      ∀ a ∈ aborts, a.reason = reason ∨ a.reason = .internalInconsistency

namespace Scene.Spared

theorem refl (reason : AbortReason) (scene : Scene σ) : scene.Spared reason scene where
  window := rfl
  inventory := rfl
  container := rfl
  reviews := rfl
  applied := rfl
  events := ⟨[], by simp, by simp⟩

theorem trans (h : scene.Spared reason scene') (h' : scene'.Spared reason scene'') :
    scene.Spared reason scene'' where
  window := h'.window.trans h.window
  inventory := h'.inventory.trans h.inventory
  container := h'.container.trans h.container
  reviews := h'.reviews.trans h.reviews
  applied := h'.applied.trans h.applied
  events := by
    obtain ⟨aborts, he, ha⟩ := h.events
    obtain ⟨aborts', he', ha'⟩ := h'.events
    refine ⟨aborts ++ aborts', by rw [he', he, List.map_append, List.append_assoc], ?_⟩
    intro a hmem
    rcases List.mem_append.1 hmem with hmem | hmem
    · exact ha a hmem
    · exact ha' a hmem

end Scene.Spared

theorem GestureOutcome.commits_of_mem_refusals (h : answer ∈ refusals) : answer.commits = 0 := by
  revert answer
  decide

variable [Storage σ] [Storage τ]

namespace Session

theorem carryOut_barred (hb : k.Bars settings t.actor reason) (payout : Payout) (scene : Scene σ) :
    carryOut k settings t payout scene = (.aborted reason, scene.abort t reason) := by
  rw [carryOut_eq, Shopkeeper.prepare_eq, hb.precheck]

theorem attempt_barred (hb : k.Bars settings s.actor reason)
    (h : s.attempt k settings payout scene = (outcome, s', scene')) :
    (∀ d, outcome ≠ .committed d) ∧ scene.Spared reason scene' := by
  rcases attempt_eq h with ⟨_, -, rfl, -, rfl⟩ | ⟨a, -, rfl, ha, -, -, rfl⟩ |
    ⟨t, -, -, hactor, -, -, ht⟩
  · exact ⟨by simp, .refl reason _⟩
  · exact ⟨by simp, rfl, rfl, rfl, rfl, rfl, [a], rfl, by simp [ha]⟩
  · obtain ⟨rfl, rfl⟩ := Prod.mk.inj ((carryOut_barred (hactor ▸ hb) _ _).symm.trans ht)
    exact ⟨by simp, rfl, rfl, rfl, rfl, rfl, [_], rfl, by simp [Trade.aborted]⟩

theorem Series.barred (hb : k.Bars settings s.actor reason)
    (h : Series k settings s scene outcomes s' scene') :
    (∀ o ∈ outcomes, ∀ d, o ≠ .committed d) ∧ scene.Spared reason scene' := by
  induction h with
  | nil => exact ⟨by simp, .refl reason _⟩
  | cons _ _ ha _ ih =>
    obtain ⟨hne, hspared⟩ := attempt_barred hb ha
    have hactor := congrArg actor (session_of_attempt ha)
    obtain ⟨hall, hrest⟩ := ih (hactor ▸ hb)
    exact ⟨List.forall_mem_cons.2 ⟨hne, hall⟩, hspared.trans hrest⟩

theorem Answered.barred {commits : List CommittedTrade} {ending : List Outcome}
    (hb : k.Bars settings s.actor reason)
    (h : s.Answered k settings g scene commits ending s' scene') :
    commits = [] ∧ scene.Spared reason scene' := by
  obtain ⟨hne, hspared⟩ := h.series.barred hb
  refine ⟨List.eq_nil_iff_forall_not_mem.2 fun d hd => ?_, hspared⟩
  exact hne _ (List.mem_append_left _ (List.mem_map_of_mem hd)) d rfl

/-- A barred actor cannot tell alike scenes apart, whatever their containers are. -/
theorem parallel_barred (hb : k.Bars settings actor reason) (ρ : TradeId → TradeId → Prop) :
    Parallel k settings actor ρ (Scene.Alike ρ : Scene σ → Scene τ → Prop) where
  alike h := h
  attempt hs hr h := by
    subst hs
    refine attempt_parallel hr.window hr.nextId hr.emit ?_ hr h
    intro t i outcome scene' ht hi h
    rw [carryOut_barred (ht ▸ hb)] at h
    cases h
    exact ⟨_, _, carryOut_barred (t := t.withId i) (ht ▸ hb) _ _, .aborted reason,
      hr.issue.abort hi reason⟩
  refresh hs ht hn _ := by
    subst hs
    obtain ⟨commits, ending, hanswered, rfl⟩ := answered_trade ht
    exact absurd (congrArg List.length (hanswered.barred hb).1) hn

theorem handle_barred (hb : k.Bars settings s.actor reason)
    (h : s.handle k settings g scene = (answer, s', scene')) :
    answer.commits = 0 ∧ scene.Spared reason scene' := by
  cases handled h with
  | echo => exact ⟨rfl, .refl reason _⟩
  | refused _ ha => exact ⟨GestureOutcome.commits_of_mem_refusals ha, .refl reason _⟩
  | answered _ hanswered =>
    have hb₀ : k.Bars settings (s.remember g).beginGesture.actor reason := hb
    obtain ⟨rfl, hspared⟩ := hanswered.barred hb₀
    exact ⟨rfl, hspared⟩

end Session

namespace Exchange

def Barred (x : Exchange) (id : ActorId) (k : Shopkeeper) (reason : AbortReason) : Prop :=
  ∀ s, x.sessions id = some s → k.Bars x.settings s.actor reason

theorem Barred.parallel (hb : x.Barred id k reason) (ρ : TradeId → TradeId → Prop) :
    x.Parallel id k ρ (Scene.Alike ρ : Scene σ → Scene τ → Prop) :=
  fun s hs => Session.parallel_barred (hb s hs) ρ

theorem Barred.handle (hb : x.Barred id k reason)
    (h : x.handle id k g scene = (answer, x', scene')) :
    x'.Barred id k reason ∧ answer.commits = 0 ∧ scene.Spared reason scene' := by
  rcases handle_session h with ⟨hanswer, rfl, rfl⟩ | ⟨s, s', hs, hh, rfl⟩
  · refine ⟨hb, ?_, .refl reason _⟩
    rcases hanswer with rfl | rfl <;> rfl
  · refine ⟨fun s₁ hs₁ => ?_, Session.handle_barred (hb s hs) hh⟩
    obtain rfl : s' = s₁ := by simpa [withSession] using hs₁
    have hactor := congrArg Session.actor (Session.session_of_handle hh)
    rw [hactor]
    exact hb s hs

theorem Barred.play (hb : x.Barred id k reason)
    (h : x.play k id n gestures scene = (played, x', scene')) :
    (∀ p ∈ played, p.outcome.commits = 0) ∧ scene.Spared reason scene' := by
  induction gestures generalizing n x scene played with
  | nil =>
    cases h
    exact ⟨by simp, .refl reason _⟩
  | cons g gestures ih =>
    obtain ⟨outcome, x₁, scene₁, rest, hg, hrest, rfl⟩ := play_cons h
    obtain ⟨hb₁, hcommits, hspared⟩ := hb.handle hg
    obtain ⟨hall, hspared'⟩ := ih hb₁ hrest
    exact ⟨List.forall_mem_cons.2 ⟨hcommits, hall⟩, hspared.trans hspared'⟩

/-- The gestures of a barred actor commit nothing and leave window, inventory and container alone,
which includes the counts of reads and writes. They tell of no more than refusals. Their outcomes
and what they tell are the same for every other container. -/
theorem barred_play (hcontainer : k.shop.usesContainer = true)
    (hrules : ∀ s, x.sessions id = some s →
      k.profile.ownerCheck s.actor x.settings = .error reason)
    (h : x.play k id n gestures scene = (played, x', scene')) :
    (∀ p ∈ played, p.outcome.commits = 0) ∧ scene.Spared reason scene' ∧
      ∀ (τ : Type) [Storage τ] (ρ : TradeId → TradeId → Prop) (twin : Scene τ),
        scene.Alike ρ twin →
          ∃ twin', x.play k id n gestures twin = (played, x', twin') ∧ scene'.Alike ρ twin' := by
  have hb : x.Barred id k reason := fun s hs => ⟨hcontainer, hrules s hs⟩
  obtain ⟨hcommits, hspared⟩ := hb.play h
  exact ⟨hcommits, hspared, fun _ _ ρ _ hr => (hb.parallel ρ).play hr h⟩

def ownStall : Shopkeeper :=
  { Session.diamondStall with
    profile :=
      { id := .ofNat 0, name := "stall", owner := some { id := .ofNat 1, name := "owner" } } }

def ownScene : Scene Container where
  window := (Window.ofRecipes (.ofNat 1)
    (ownStall.recipes .standard (some (Container.mk [some (.plain "diamond" 2), none]
      false false 0 0))).1).place { slot1 := some (.plain "emerald" 5) }
  inventory := {}
  container := some { contents := [some (.plain "diamond" 2), none] }
  listener := fun _ _ => .allow
  ids := .ofNat

def ownTwin : Scene Container :=
  { ownScene with container := none, ids := fun n => .ofNat (n + 7) }

def ownExchange : Exchange := openSession { settings := {} } { id := .ofNat 1, name := "owner" }

def ownGestures : List Gesture :=
  [{ slot := resultSlot, kind := .pickupAll, timestamp := 0 },
    { slot := resultSlot, kind := .dropOne, timestamp := 900 }]

def ownPlayed : List PlayedGesture × Exchange × Scene Container :=
  ownExchange.play ownStall (.ofNat 1) 0 ownGestures ownScene

theorem barred_play_ownStall :
    ownPlayed.1.map (·.outcome) = [.traded 0, .unsupported] ∧
      ownPlayed.2.2.journal.events = [.aborted {
        trade := some (.ofNat 0), shop := .ofNat 0, actor := .ofNat 1, reason := .selfTrade }] ∧
      ownScene.Spared .selfTrade ownPlayed.2.2 ∧
      ∃ twin', ownExchange.play ownStall (.ofNat 1) 0 ownGestures ownTwin =
          (ownPlayed.1, ownPlayed.2.1, twin') ∧
        ownPlayed.2.2.Alike (fun i j => i = j ∨ ∃ n, i = ownScene.ids n ∧ j = ownTwin.ids n)
          twin' := by
  have hrules : ∀ s, ownExchange.sessions (.ofNat 1) = some s →
      ownStall.profile.ownerCheck s.actor ownExchange.settings = .error .selfTrade := by
    rintro s ⟨⟩
    rfl
  obtain ⟨-, hspared, htwin⟩ := barred_play rfl hrules
    (rfl : ownExchange.play ownStall (.ofNat 1) 0 ownGestures ownScene =
      (ownPlayed.1, ownPlayed.2.1, ownPlayed.2.2))
  exact ⟨by decide, by decide, hspared, htwin Container _ ownTwin (Scene.alike_of_same rfl rfl rfl)⟩

end Exchange

end Bazaar
