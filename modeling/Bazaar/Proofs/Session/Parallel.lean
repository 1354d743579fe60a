import Bazaar.Proofs.Session.Alike
import Bazaar.Proofs.Session.Batch

/-! # Parallel gestures

What a gesture does next is decided by the window, the cursor, the room in the storage and the
outcomes of its attempts so far. So if single attempts cannot tell two related scenes apart, no
gesture can. Scenes in lockstep may differ in what their storages hold as long as as much fits into
both; alike scenes have the same inventory.
-/

namespace Bazaar

variable {σ τ : Type} [Storage σ] [Storage τ] {R : Scene σ → Scene τ → Prop}
  {P : Payout → Payout → Prop} {ρ : TradeId → TradeId → Prop} {k : Shopkeeper} {settings : Settings}
  {actor : Actor} {payout payout' : Payout} {payout? payout?' : Stack → Option Payout}
  {outcome : Outcome} {s s' : Session} {scene scene' : Scene σ} {twin : Scene τ} {g : Gesture}
  {n : Nat} {previous : Option Stack} {answer : GestureOutcome}

/-! ## Attempts -/

namespace Session

theorem session_of_attempt (h : s.attempt k settings payout scene = (outcome, s', scene')) :
    s' = { s with counter := s'.counter } := by
  rcases attempt_eq h with ⟨_, -, -, rfl, -⟩ | ⟨_, -, -, -, -, rfl, -⟩ | ⟨_, -, -, -, -, rfl, -⟩
  all_goals rfl

theorem Series.session {outcomes : List Outcome}
    (h : Series k settings s scene outcomes s' scene') : s' = { s with counter := s'.counter } := by
  induction h with
  | nil => rfl
  | cons _ _ ha _ ih =>
    have hs := session_of_attempt ha
    rw [ih, hs]

theorem attempt_parallel (hwindow : twin.window = scene.window)
    (hid : ρ scene.nextId twin.nextId)
    (hemit : ∀ {e}, e.Alike ρ e → R (scene.emit e) (twin.emit e))
    (hcarry : ∀ {t : Trade} {i : TradeId} {outcome : Outcome} {scene' : Scene σ},
      t.actor = s.actor → ρ t.id i →
      carryOut k settings t payout scene.issue = (outcome, scene') →
      ∃ outcome' twin', carryOut k settings (t.withId i) payout' twin.issue = (outcome', twin') ∧
        outcome.Alike ρ outcome' ∧ R scene' twin')
    (hr : R scene twin) (h : s.attempt k settings payout scene = (outcome, s', scene')) :
    ∃ outcome' twin', s.attempt k settings payout' twin = (outcome', s', twin') ∧
      outcome.Alike ρ outcome' ∧ R scene' twin' := by
  unfold attempt at h ⊢
  rw [hwindow]
  split at h
  case h_1 why _ =>
    cases h
    exact ⟨_, twin, rfl, .idle why, hr⟩
  case h_2 =>
    cases h
    exact ⟨_, _, rfl, .aborted _, hemit (.aborted ⟨.none, rfl⟩)⟩
  case h_3 deal order _ =>
    simp only [Prod.mk.injEq] at h
    obtain ⟨hout, rfl, hscene⟩ := h
    obtain ⟨outcome', twin', htwin, ho, hr'⟩ := hcarry rfl hid (Prod.ext hout hscene)
    refine ⟨outcome', twin', ?_, ho, hr'⟩
    exact congrArg (fun r => (r.1, { s with counter := s.counter + 1 }, r.2)) htwin

/-! ## Gestures in lockstep -/

/-- A relation between scenes that the attempts of an actor keep up, and so do the displays that
follow them. Attempts come with payouts, which may differ as the storages of the two scenes do. -/
structure Lockstep (k : Shopkeeper) (settings : Settings) (actor : Actor)
    (ρ : TradeId → TradeId → Prop) (P : Payout → Payout → Prop)
    (R : Scene σ → Scene τ → Prop) : Prop where
  window : ∀ {scene twin}, R scene twin → twin.window = scene.window
  cursor : ∀ {scene twin}, R scene twin → twin.inventory.cursor = scene.inventory.cursor
  onCursor : ∀ stack, P (.cursor stack) (.cursor stack)
  inStorage : ∀ {scene twin} (result : Stack), R scene twin →
    (twin.inventory.storage.addInClientOrder result).2 =
        (scene.inventory.storage.addInClientOrder result).2 ∧
      P (.storage (scene.inventory.storage.addInClientOrder result).1)
        (.storage (twin.inventory.storage.addInClientOrder result).1)
  attempt : ∀ {s s' : Session} {payout payout' : Payout} {outcome : Outcome}
    {scene scene' : Scene σ} {twin : Scene τ}, s.actor = actor → P payout payout' →
    R scene twin → s.attempt k settings payout scene = (outcome, s', scene') →
    ∃ outcome' twin', s.attempt k settings payout' twin = (outcome', s', twin') ∧
      outcome.Alike ρ outcome' ∧ R scene' twin'
  refresh : ∀ {s s' : Session} {g : Gesture} {n : Nat} {scene mid : Scene σ} {twin : Scene τ},
    s.actor = actor → s.trade k settings g scene = .ok (n, s', mid) → n ≠ 0 → R mid twin →
    R (mid.refresh k settings s'.actor.id) (twin.refresh k settings s'.actor.id)

inductive Round.Parallel (R : Scene σ → Scene τ → Prop) (actor : Actor) :
    Round σ → Round τ → Prop
  | stop {why : BatchStop} {s : Session} {scene : Scene σ} {twin : Scene τ} (hr : R scene twin) :
      Round.Parallel R actor (.stop why s scene) (.stop why s twin)
  | next {result : Stack} {s : Session} {scene : Scene σ} {twin : Scene τ} (hs : s.actor = actor)
      (hr : R scene twin) : Round.Parallel R actor (.next result s scene) (.next result s twin)

namespace Lockstep

theorem single (hl : Lockstep k settings actor ρ P R) (hs : s.actor = actor) (hr : R scene twin)
    (hpay : ∀ result, Option.Rel P (payout? result) (payout?' result))
    (h : s.single k settings payout? scene = (n, s', scene')) :
    ∃ twin', s.single k settings payout?' twin = (n, s', twin') ∧ R scene' twin' := by
  have hpayout : Option.Rel P (scene.window.result.bind payout?)
      (scene.window.result.bind payout?') := by
    cases scene.window.result with
    | none => exact .none
    | some result => exact hpay result
  unfold Session.single at h ⊢
  rw [hl.window hr]
  generalize scene.window.result.bind payout? = p at h hpayout
  generalize scene.window.result.bind payout?' = p' at hpayout ⊢
  cases hpayout with
  | none =>
    cases h
    exact ⟨twin, rfl, hr⟩
  | @some payout payout' hp =>
    rcases ha : s.attempt k settings payout scene with ⟨outcome, s₁, scene₁⟩
    obtain ⟨outcome', twin₁, ha', ho, hr₁⟩ := hl.attempt hs hp hr ha
    simp only [ha] at h
    simp only [ha']
    cases ho with
    | idle | aborted | committed =>
      cases h
      exact ⟨twin₁, rfl, hr₁⟩

theorem onCursor? (hl : Lockstep k settings actor ρ P R) (hr : R scene twin) (result : Stack) :
    Option.Rel P (scene.inventory.cursorPayout? result) (twin.inventory.cursorPayout? result) := by
  unfold Inventory.cursorPayout?
  rw [hl.cursor hr]
  split
  · exact .some (hl.onCursor _)
  split
  · exact .some (hl.onCursor _)
  · exact .none

theorem round (hl : Lockstep k settings actor ρ P R) (hs : s.actor = actor) (hr : R scene twin)
    (previous : Option Stack) :
    (Session.round k settings previous s scene).Parallel R actor
      (Session.round k settings previous s twin) := by
  unfold Session.round
  rw [hl.window hr]
  cases scene.window.result with
  | none => exact .stop hr
  | some result =>
    obtain ⟨hroom, hp⟩ := hl.inStorage result hr
    dsimp only
    rw [hroom]
    split
    · exact .stop hr
    split
    · exact .stop hr
    · rcases ha : s.attempt k settings _ scene with ⟨outcome, s₁, scene₁⟩
      obtain ⟨outcome', twin₁, ha', ho, hr₁⟩ := hl.attempt hs hp hr ha
      rw [ha']
      cases ho with
      | idle why => exact .stop hr₁
      | aborted reason => exact .stop hr₁
      | committed =>
        have hs₁ := congrArg Session.actor (session_of_attempt ha)
        exact .next (hs₁.trans hs) hr₁

/-- By induction on what is offered, of which every round that goes on takes something away. -/
theorem batchAfter (hl : Lockstep k settings actor ρ P R) (hs : s.actor = actor)
    (hr : R scene twin) {result : Nat × BatchStop}
    (h : batchAfter k settings n previous s scene = (result, s', scene')) :
    ∃ twin', Session.batchAfter k settings n previous s twin = (result, s', twin') ∧
      R scene' twin' := by
  induction hlarger : scene.window.offered.larger using Nat.strongRecOn
    generalizing n previous s scene twin with
  | ind larger ih =>
    rw [batchAfter_eq_round] at h ⊢
    have hround := hl.round hs hr previous
    generalize h₁ : Session.round k settings previous s scene = r at h hround
    generalize Session.round k settings previous s twin = r' at hround ⊢
    cases hround with
    | stop hr₁ =>
      cases h
      exact ⟨_, rfl, hr₁⟩
    | next hs₁ hr₁ => exact ih _ (hlarger ▸ larger_round_lt h₁) hs₁ hr₁ h rfl

/-- The trades of a gesture run in lockstep if those of a swap into the hotbar do. Only they look
at a single slot of the storage. -/
theorem trade (hl : Lockstep k settings actor ρ P R) (hs : s.actor = actor) (hr : R scene twin)
    (hswap : g.kind = .hotbarSwap → ∀ {n s' scene'},
      s.single k settings (scene.inventory.hotbarPayout? g.button) scene = (n, s', scene') →
      ∃ twin', s.single k settings (twin.inventory.hotbarPayout? g.button) twin = (n, s', twin') ∧
        R scene' twin') :
    match s.trade k settings g scene with
    | .error answer => s.trade k settings g twin = .error answer
    | .ok (n, s', scene') =>
        ∃ twin', s.trade k settings g twin = .ok (n, s', twin') ∧ R scene' twin' := by
  unfold Session.trade
  cases hkind : g.kind with
  | pickupAll | pickupHalf =>
    dsimp only
    rcases h : s.single k settings scene.inventory.cursorPayout? scene with ⟨n, s', scene'⟩
    obtain ⟨twin', htwin, hr'⟩ := hl.single hs hr (hl.onCursor? hr) h
    exact ⟨twin', congrArg Except.ok htwin, hr'⟩
  | hotbarSwap =>
    dsimp only
    rcases h : s.single k settings (scene.inventory.hotbarPayout? g.button) scene with
      ⟨n, s', scene'⟩
    obtain ⟨twin', htwin, hr'⟩ := hswap hkind h
    exact ⟨twin', congrArg Except.ok htwin, hr'⟩
  | moveToOther =>
    unfold batch
    rcases h : Session.batchAfter k settings 0 none s scene with ⟨⟨n, stop⟩, s', scene'⟩
    obtain ⟨twin', htwin, hr'⟩ := hl.batchAfter hs hr h
    rw [htwin]
    exact ⟨twin', rfl, hr'⟩
  | cloneStack | collectToCursor | dropOne | dropAll | placeAll | other => rfl

theorem cursorHoldsResult (hl : Lockstep k settings actor ρ P R) (hr : R scene twin) :
    twin.cursorHoldsResult = scene.cursorHoldsResult := by
  unfold Scene.cursorHoldsResult
  rw [hl.window hr, hl.cursor hr]

theorem handle (hl : Lockstep k settings actor ρ P R) (hs : s.actor = actor) (hr : R scene twin)
    (hswap : s.echo.isEcho g = false → g.targetsResult = true → g.kind = .hotbarSwap →
      ∀ {n s' scene'},
        (s.remember g).beginGesture.single k settings (scene.inventory.hotbarPayout? g.button)
          scene = (n, s', scene') →
        ∃ twin', (s.remember g).beginGesture.single k settings
            (twin.inventory.hotbarPayout? g.button) twin = (n, s', twin') ∧ R scene' twin')
    (h : s.handle k settings g scene = (answer, s', scene')) :
    ∃ twin', s.handle k settings g twin = (answer, s', twin') ∧ R scene' twin' := by
  unfold Session.handle at h ⊢
  rw [hl.cursorHoldsResult hr]
  cases hf : s.echo.isEcho g with
  | true =>
    rw [EchoFilter.classify_of_isEcho hf] at h ⊢
    cases h
    exact ⟨twin, rfl, hr⟩
  | false =>
    rw [EchoFilter.classify_of_not_isEcho hf] at h ⊢
    dsimp only at h ⊢
    by_cases hcollect : g.kind = .collectToCursor ∧ scene.cursorHoldsResult = true
    · rw [if_pos hcollect] at h ⊢
      cases h
      exact ⟨twin, rfl, hr⟩
    by_cases hslot : (!g.targetsResult) = true
    · rw [if_neg hcollect, if_pos hslot] at h ⊢
      cases h
      exact ⟨twin, rfl, hr⟩
    rw [if_neg hcollect, if_neg hslot] at h ⊢
    have hs₀ : (s.remember g).beginGesture.actor = actor := hs
    have htrade := hl.trade hs₀ hr (hswap hf (by simpa using hslot))
    unfold remember at htrade hs₀
    cases ht : (beginGesture { s with
        echo := { s.echo with last := some (g.slot, g.timestamp) } }).trade k settings g scene with
    | error outcome =>
      rw [ht] at h htrade
      rw [htrade]
      cases h
      exact ⟨twin, rfl, hr⟩
    | ok result =>
      obtain ⟨n, s₁, mid⟩ := result
      rw [ht] at h htrade
      obtain ⟨twin₁, htwin, hr₁⟩ := htrade
      rw [htwin]
      dsimp only at h ⊢
      by_cases hn : n = 0
      · rw [if_pos hn] at h ⊢
        cases h
        exact ⟨twin₁, rfl, hr₁⟩
      · rw [if_neg hn] at h ⊢
        cases h
        exact ⟨_, rfl, hl.refresh hs₀ ht hn hr₁⟩

end Lockstep

/-! ## Alike scenes -/

/-- A relation between alike scenes that the attempts of an actor keep up, and so do the displays
that follow them. -/
structure Parallel (k : Shopkeeper) (settings : Settings) (actor : Actor)
    (ρ : TradeId → TradeId → Prop) (R : Scene σ → Scene τ → Prop) : Prop where
  alike : ∀ {scene twin}, R scene twin → scene.Alike ρ twin
  attempt : ∀ {s s' : Session} {payout : Payout} {outcome : Outcome} {scene scene' : Scene σ}
    {twin : Scene τ}, s.actor = actor → R scene twin →
    s.attempt k settings payout scene = (outcome, s', scene') →
    ∃ outcome' twin', s.attempt k settings payout twin = (outcome', s', twin') ∧
      outcome.Alike ρ outcome' ∧ R scene' twin'
  refresh : ∀ {s s' : Session} {g : Gesture} {n : Nat} {scene mid : Scene σ} {twin : Scene τ},
    s.actor = actor → s.trade k settings g scene = .ok (n, s', mid) → n ≠ 0 → R mid twin →
    R (mid.refresh k settings s'.actor.id) (twin.refresh k settings s'.actor.id)

namespace Parallel

theorem lockstep (hp : Parallel k settings actor ρ R) :
    Lockstep k settings actor ρ (· = ·) R where
  window hr := (hp.alike hr).window
  cursor hr := congrArg Inventory.cursor (hp.alike hr).inventory
  onCursor _ := rfl
  inStorage result hr := by
    rw [(hp.alike hr).inventory]
    exact ⟨rfl, rfl⟩
  attempt hs heq hr h := by
    subst heq
    exact hp.attempt hs hr h
  refresh := hp.refresh

theorem handle (hp : Parallel k settings actor ρ R) (hs : s.actor = actor) (hr : R scene twin)
    (h : s.handle k settings g scene = (answer, s', scene')) :
    ∃ twin', s.handle k settings g twin = (answer, s', twin') ∧ R scene' twin' := by
  refine hp.lockstep.handle hs hr ?_ h
  intro _ _ _ n s₁ scene₁ hsingle
  have hs₀ : (s.remember g).beginGesture.actor = actor := hs
  refine hp.lockstep.single hs₀ hr (fun result => ?_) hsingle
  rw [(hp.alike hr).inventory]
  cases scene.inventory.hotbarPayout? g.button result with
  | none => exact .none
  | some payout => exact .some rfl

end Parallel

theorem session_of_handle (h : s.handle k settings g scene = (answer, s', scene')) :
    s' = { s with echo := (s.echo.classify g).2, counter := s'.counter } := by
  cases handled h with
  | echo hf => rw [EchoFilter.classify_of_isEcho hf]
  | refused hf => rw [EchoFilter.classify_of_not_isEcho hf]; rfl
  | answered hf hanswered =>
    rw [EchoFilter.classify_of_not_isEcho hf]
    exact hanswered.series.session

end Session

end Bazaar
