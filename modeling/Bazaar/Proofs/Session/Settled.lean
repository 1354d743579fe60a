import Bazaar.Proofs.Inventory.Settled
import Bazaar.Proofs.Session.Relabelled

/-! # Empty stacks in the storage of an actor

A gesture goes on the same whether the storage of its actor holds empty stacks or not, with one
exception. A swap into the hotbar takes an empty stack for something that is in the way, so it does
nothing where it would try a trade on the settled storage.
-/

namespace Bazaar

variable {σ : Type} {k : Shopkeeper} {settings : Settings} {payout payout' : Payout}
  {outcome : Outcome} {s s' : Session} {scene scene' twin : Scene σ} {t : Trade} {g : Gesture}
  {n : Nat} {answer : GestureOutcome} {actor : Actor}

def Scene.settled (scene : Scene σ) : Scene σ :=
  { scene with inventory := scene.inventory.settled }

namespace Scene

theorem settled_settled (scene : Scene σ) : scene.settled.settled = scene.settled := by
  unfold settled
  rw [Inventory.settled_settled]

theorem exists_of_settled_eq (h : twin.settled = scene.settled) :
    ∃ i : Inventory, twin = { scene with inventory := i } ∧
      i.settled = scene.inventory.settled := by
  obtain ⟨hwindow, hinventory, hcontainer, hlistener, hids, hjournal⟩ := Scene.mk.inj h
  refine ⟨twin.inventory, ?_, hinventory⟩
  rw [← hwindow, ← hcontainer, ← hlistener, ← hids, ← hjournal]

end Scene

theorem Outcome.Alike.self (o : Outcome) : o.Alike (· = ·) o := by
  cases o with
  | idle why => exact .idle why
  | aborted reason => exact .aborted reason
  | committed d => exact .committed ⟨rfl, rfl⟩

theorem Window.exists_result {w : Window} {comparison : Comparison}
    (h : ∀ why, w.select comparison ≠ .idle why) : ∃ result, w.result = some result := by
  cases hresult : w.result with
  | none => exact absurd (by rw [select, hresult]) (h .emptyResult)
  | some result => exact ⟨result, rfl⟩

/-- The window asks for a trade, and a gesture swaps its result into the hotbar. -/
structure Scene.Swaps (scene : Scene σ) (settings : Settings) (g : Gesture) : Prop where
  onResult : g.targetsResult = true
  kind : g.kind = .hotbarSwap
  asked : ∀ why, scene.window.select settings.comparison ≠ .idle why

/-- An empty stack is in the way of such a swap. -/
structure Scene.Obstructs (scene : Scene σ) (settings : Settings) (g : Gesture) : Prop
    extends scene.Swaps settings g where
  emptyStack : scene.inventory.EmptyStackAt g.button

theorem EchoFilter.isEcho_of_hotbarSwap (f : EchoFilter) (h : g.kind = .hotbarSwap) :
    f.isEcho g = false := by
  unfold isEcho
  split
  · rfl
  · simp [h]

variable [Storage σ]

namespace Session

/-! ## Attempts -/

theorem commit_of_settled_eq (hr : twin.settled = scene.settled)
    (hp : payout'.settled = payout.settled) (h : commit t payout scene = (outcome, scene')) :
    ∃ twin', commit t payout' twin = (outcome, twin') ∧ twin'.settled = scene'.settled := by
  obtain ⟨i, rfl, hi⟩ := Scene.exists_of_settled_eq hr
  unfold commit at h ⊢
  split at h
  case h_1 container he =>
    cases h
    rw [he]
    exact ⟨_, rfl, by simp only [Scene.settled, Scene.abort, hi]⟩
  case h_2 container he =>
    rw [he]
    rcases Inventory.pay_cases_of_settled_eq hi hp with
      ⟨e, hs, hs'⟩ | ⟨inventory, inventory', hs, hs', hinventory⟩
    · simp only [hs, Prod.mk.injEq] at h
      obtain ⟨rfl, rfl⟩ := h
      simp only [hs']
      exact ⟨_, rfl, by simp only [Scene.settled, Scene.abort, hi]⟩
    · simp only [hs, Prod.mk.injEq] at h
      obtain ⟨rfl, rfl⟩ := h
      simp only [hs']
      exact ⟨_, rfl, by simp only [Scene.settled, Scene.apply, hinventory]⟩

theorem carryOut_of_settled_eq (hr : twin.settled = scene.settled)
    (hp : payout'.settled = payout.settled)
    (h : carryOut k settings t payout scene = (outcome, scene')) :
    ∃ twin', carryOut k settings t payout' twin = (outcome, twin') ∧
      twin'.settled = scene'.settled := by
  obtain ⟨i, rfl, hi⟩ := Scene.exists_of_settled_eq hr
  rw [carryOut_eq] at h ⊢
  split at h
  case h_1 reason container hprepare =>
    cases h
    rw [hprepare]
    exact ⟨_, rfl, by simp only [Scene.settled, Scene.abort, hi]⟩
  case h_2 t' container hprepare =>
    rw [hprepare]
    split at h
    case h_1 scene₁ hreview =>
      obtain ⟨hverdict, rfl⟩ := Prod.mk.inj hreview
      cases h
      simp only [Scene.review] at hverdict ⊢
      rw [hverdict]
      exact ⟨_, rfl, by simp only [Scene.settled, Scene.abort, hi]⟩
    case h_2 scene₁ hreview =>
      obtain ⟨hverdict, rfl⟩ := Prod.mk.inj hreview
      simp only [Scene.review] at hverdict ⊢
      rw [hverdict]
      exact commit_of_settled_eq (by simp only [Scene.settled, hi]) hp h

/-- No actor can tell scenes apart that settle to the same, except by a single slot. -/
theorem lockstep_settled (k : Shopkeeper) (settings : Settings) (actor : Actor) :
    Lockstep k settings actor (· = ·) (fun payout payout' => payout'.settled = payout.settled)
      (fun scene twin : Scene σ => twin.settled = scene.settled) where
  window h := by
    obtain ⟨i, rfl, -⟩ := Scene.exists_of_settled_eq h
    rfl
  cursor h := by
    obtain ⟨i, rfl, hi⟩ := Scene.exists_of_settled_eq h
    obtain ⟨slots, rfl, -⟩ := Inventory.exists_of_settled_eq hi
    rfl
  onCursor _ := rfl
  inStorage result h := by
    obtain ⟨i, rfl, hi⟩ := Scene.exists_of_settled_eq h
    obtain ⟨hleft, hslots⟩ := Inventory.addInClientOrder_of_settled_eq hi result
    exact ⟨hleft, congrArg Payout.storage hslots⟩
  attempt {_ _ _ _ _ scene _ _} _ hp hr h := by
    obtain ⟨i, rfl, hi⟩ := Scene.exists_of_settled_eq hr
    have hissue : { scene with inventory := i }.issue.settled = scene.issue.settled := by
      simp only [Scene.settled, Scene.issue, hi]
    refine attempt_parallel (R := fun scene twin => twin.settled = scene.settled) ?_ ?_ ?_ ?_ hr h
    · rfl
    · rfl
    · intro e _
      simp only [Scene.settled, Scene.emit, hi]
    · rintro t _ outcome scene' - rfl hcarry
      obtain ⟨twin', htwin, hr'⟩ := carryOut_of_settled_eq hissue hp hcarry
      exact ⟨outcome, twin', htwin, .self outcome, hr'⟩
  refresh _ _ _ hr := by
    obtain ⟨i, rfl, hi⟩ := Scene.exists_of_settled_eq hr
    simp only [Scene.settled, Scene.refresh, Scene.emit, hi]

/-! ## Gestures -/

theorem single_of_idle {payout? : Stack → Option Payout} {why : Idle}
    (h : scene.window.select settings.comparison = .idle why) :
    s.single k settings payout? scene = (0, s, scene) := by
  unfold Session.single attempt
  rw [h]
  split
  · rfl
  · rfl

theorem handle_settled (hfree : ¬ scene.Obstructs settings g)
    (h : s.handle k settings g scene = (answer, s', scene')) :
    ∃ twin', s.handle k settings g scene.settled = (answer, s', twin') ∧
      twin'.settled = scene'.settled := by
  have hl := lockstep_settled (σ := σ) k settings s.actor
  refine hl.handle rfl scene.settled_settled ?_ h
  intro _ hresult hkind n s₁ scene₁ hsingle
  by_cases hempty : scene.inventory.EmptyStackAt g.button
  · -- Nothing is paid out here, and no trade is asked for on the settled storage.
    have hidle : ∃ why, scene.window.select settings.comparison = .idle why := by
      by_contra hne
      have hasked : ∀ why, scene.window.select settings.comparison ≠ .idle why :=
        fun why hwhy => hne ⟨why, hwhy⟩
      exact hfree ⟨⟨hresult, hkind, hasked⟩, hempty⟩
    obtain ⟨why, hidle⟩ := hidle
    rw [single_of_idle hidle] at hsingle
    cases hsingle
    exact ⟨scene.settled, single_of_idle hidle, scene.settled_settled⟩
  · have hs₀ : (s.remember g).beginGesture.actor = s.actor := rfl
    refine hl.single hs₀ scene.settled_settled (fun result => ?_) hsingle
    unfold Scene.settled
    rw [Inventory.hotbarPayout?_settled hempty]
    cases scene.inventory.hotbarPayout? g.button result with
    | none => exact .none
    | some payout => exact .some rfl

/-- The trade of a swap is the only thing that the swap tries. -/
theorem handle_swap (h : scene.Swaps settings g)
    (hsingle : (s.remember g).beginGesture.single k settings
      (scene.inventory.hotbarPayout? g.button) scene = (n, s', scene')) :
    s.handle k settings g scene = (.traded n, s',
      if n = 0 then scene' else scene'.refresh k settings s'.actor.id) := by
  unfold remember at hsingle
  unfold Session.handle trade
  rw [EchoFilter.classify_of_not_isEcho (s.echo.isEcho_of_hotbarSwap h.kind)]
  simp only [h.kind, h.onResult, hsingle, reduceCtorEq, false_and, if_false, Bool.not_true,
    Bool.false_eq_true]
  split
  case isTrue hn => rw [hn]
  case isFalse => rfl

theorem handle_of_obstructs (h : scene.Obstructs settings g) :
    s.handle k settings g scene = (.traded 0, (s.remember g).beginGesture, scene) := by
  have hnone : scene.window.result.bind (scene.inventory.hotbarPayout? g.button) = none :=
    Option.bind_eq_none_iff.2 fun result _ => (h.emptyStack.hotbarPayout? result).1
  refine handle_swap h.toSwaps ?_
  unfold Session.single
  rw [hnone]

/-! Without the empty stack the same swap tells of a trade, be it committed or aborted. -/

theorem events_attempt_lt (hasked : ∀ why, scene.window.select settings.comparison ≠ .idle why)
    (h : s.attempt k settings payout scene = (outcome, s', scene')) :
    scene.journal.events.length < scene'.journal.events.length := by
  rcases attempt_eq h with ⟨why, hidle, -⟩ | ⟨a, -, -, -, -, -, rfl⟩ | ⟨t, -, -, -, -, -, ht⟩
  · exact absurd hidle (hasked why)
  · simp [Scene.emit]
  · rcases carryOut_told ht with ⟨reason, -, hj, -⟩ | ⟨-, hj, -⟩
    · simp [hj.events, Scene.issue]
    · simp [hj.events, Scene.issue]

theorem events_single_lt {payout? : Stack → Option Payout}
    (hasked : ∀ why, scene.window.select settings.comparison ≠ .idle why)
    (hroom : ∀ result, (payout? result).isSome = true)
    (h : s.single k settings payout? scene = (n, s', scene')) :
    scene.journal.events.length < scene'.journal.events.length := by
  obtain ⟨result, hresult⟩ := Window.exists_result hasked
  obtain ⟨payout, hpayout⟩ := Option.isSome_iff_exists.1 (hroom result)
  unfold Session.single at h
  rw [hresult, Option.bind_some, hpayout] at h
  dsimp only at h
  split at h
  case h_1 ha =>
    cases h
    exact events_attempt_lt hasked ha
  case h_2 ha =>
    cases h
    exact events_attempt_lt hasked ha

theorem events_swap_lt (hswap : scene.Swaps settings g)
    (hroom : ∀ result, (scene.inventory.hotbarPayout? g.button result).isSome = true)
    (h : s.handle k settings g scene = (answer, s', scene')) :
    scene.journal.events.length < scene'.journal.events.length := by
  rcases hsingle : (s.remember g).beginGesture.single k settings
    (scene.inventory.hotbarPayout? g.button) scene with ⟨n, s₁, mid⟩
  have hlt := events_single_lt hswap.asked hroom hsingle
  rw [handle_swap hswap hsingle] at h
  cases h
  split
  · exact hlt
  · have hevents : (mid.refresh k settings s'.actor.id).journal.events =
        mid.journal.events ++ [.recipesChanged k.profile.id s'.actor.id] := rfl
    rw [hevents, List.length_append]
    exact Nat.lt_succ_of_lt hlt

end Session

end Bazaar
