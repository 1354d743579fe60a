import Bazaar.Proofs.Session.Journal

/-! # The length of a batch

A batch goes round until something stops it. Every round but the last one commits a trade, and a
trade takes something out of each offered slot that is not empty. So the larger of the two offered
amounts bounds the trades, and with one round more to find out why the batch stops, it bounds the
rounds.
-/

namespace Bazaar.Session

variable {σ : Type} [Storage σ] {k : Shopkeeper} {settings : Settings} {previous : Option Stack}
  {result : Stack} {s s' : Session} {scene scene' : Scene σ} {n rounds : Nat} {stop : BatchStop}

inductive Round (σ : Type)
  | stop (why : BatchStop) (s : Session) (scene : Scene σ)
  /-- A trade has given a result. -/
  | next (result : Stack) (s : Session) (scene : Scene σ)

def round (k : Shopkeeper) (settings : Settings) (previous : Option Stack) (s : Session)
    (scene : Scene σ) : Round σ :=
  match scene.window.result with
  | none => .stop .emptyResult s scene
  | some result =>
    if previous.any (fun p => !p.similar result) then .stop .resultChanged s scene
    else
      match scene.inventory.storage.addInClientOrder result with
      | (storage, left) =>
        if left ≠ 0 then .stop .insufficientSpace s scene
        else
          match s.attempt k settings (.storage storage) scene with
          | (.idle why, s, scene) => .stop (.idle why) s scene
          | (.aborted reason, s, scene) => .stop (.aborted reason) s scene
          | (.committed _, s, scene) => .next result s scene

/-- The batch, given up unless it stops within some number of rounds. -/
def batchWithin (k : Shopkeeper) (settings : Settings) : Nat → Nat → Option Stack → Session →
    Scene σ → Option ((Nat × BatchStop) × Session × Scene σ)
  | 0, _, _, _, _ => none
  | rounds + 1, n, previous, s, scene =>
    match round k settings previous s scene with
    | .stop why s scene => some ((n, why), s, scene)
    | .next result s scene => batchWithin k settings rounds (n + 1) (some result) s scene

theorem batchAfter_eq_round (k : Shopkeeper) (settings : Settings) (n : Nat)
    (previous : Option Stack) (s : Session) (scene : Scene σ) :
    batchAfter k settings n previous s scene =
      match round k settings previous s scene with
      | .stop why s scene => ((n, why), s, scene)
      | .next result s scene => batchAfter k settings (n + 1) (some result) s scene := by
  rw [batchAfter, round]
  cases scene.window.result with
  | none => rfl
  | some result =>
    dsimp only
    split
    · rfl
    split
    · rfl
    · split <;> simp [*]

theorem larger_round_lt (h : round k settings previous s scene = .next result s' scene') :
    scene'.window.offered.larger < scene.window.offered.larger := by
  unfold round at h
  split at h
  · cases h
  split at h
  · cases h
  dsimp only at h
  split at h
  · cases h
  split at h
  · cases h
  · cases h
  case h_3 ha =>
    cases h
    have htried := attempt_tried ha
    exact htried.spends.larger

/-- By induction on the rounds that are left, which stay more than the larger offered amount. -/
theorem batchWithin_eq_some (h : scene.window.offered.larger < rounds) :
    batchWithin k settings rounds n previous s scene =
      some (batchAfter k settings n previous s scene) := by
  induction rounds generalizing n previous s scene with
  | zero => exact absurd h (Nat.not_lt_zero _)
  | succ rounds ih =>
    rw [batchWithin, batchAfter_eq_round]
    cases hround : round k settings previous s scene with
    | stop why s' scene' => rfl
    | next result s' scene' =>
      have hlt := larger_round_lt hround
      exact ih (by omega)

/-- A batch stops. It goes through no more trades than there are items in the larger offered stack,
tells of each of them once, and takes out of each slot what these trades were paid from there. -/
theorem batch_bounded (s : Session) (k : Shopkeeper) (settings : Settings) (scene : Scene σ) :
    batchWithin k settings (scene.window.offered.larger + 1) 0 none s scene =
      some (s.batch k settings scene) ∧
    match s.batch k settings scene with
    | ((n, _), _, scene') => ∃ (commits : List CommittedTrade) (aborts : List AbortedTrade),
        scene'.journal.events =
          scene.journal.events ++ commits.map .committed ++ aborts.map .aborted ∧
        n = commits.length ∧
        n ≤ max (amountIn scene.window.offered.slot1).val
          (amountIn scene.window.offered.slot2).val ∧
        scene.window.offered.Spends scene'.window.offered commits := by
  refine ⟨batchWithin_eq_some (Nat.lt_succ_self _), ?_⟩
  rcases h : s.batch k settings scene with ⟨⟨n, stop⟩, s', scene'⟩
  obtain ⟨commits, hseries, hn⟩ := series_batchAfter h
  obtain ⟨aborts, htried, -⟩ := hseries.tried stop.length_ending_le stop.not_committed
  have hlarger := htried.spends.larger
  rw [Nat.zero_add] at hn
  refine ⟨commits, aborts, htried.journal.events, hn, ?_, htried.spends⟩
  rw [hn]
  exact Nat.le_trans (Nat.le_add_left _ _) hlarger

end Bazaar.Session
