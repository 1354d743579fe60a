import Bazaar.Proofs.Exchange.Play
import Bazaar.Proofs.Session.Attempt
import Bazaar.Proofs.Session.Relabelled

/-! # Echoes

A gesture that is recognised as an echo of an earlier one leaves everything as it was, what is known
of the earlier one included. So the echoes can be left out of a list of gestures. Gestures that are
ignored for another reason cannot: they may be what later ones are echoes of.
-/

namespace Bazaar

variable {σ : Type} [Storage σ] {ρ : TradeId → TradeId → Prop} {k : Shopkeeper} {g : Gesture}
  {gestures : List Gesture} {f : EchoFilter} {s s' : Session} {x x' : Exchange} {id : ActorId}
  {scene scene' twin : Scene σ} {n : Nat} {answer : GestureOutcome} {p : PlayedGesture}
  {played pre post : List PlayedGesture}

/-! ## Recognition -/

theorem EchoFilter.of_isEcho (h : f.isEcho g = true) :
    ∃ slot time, f.last = some (slot, time) ∧ g.kind = .moveToOther ∧ g.slot ≠ slot ∧
      g.timestamp.toNat < time.toNat + f.window.toNat := by
  unfold isEcho at h
  split at h
  · cases h
  case h_2 slot time hlast =>
    simp only [Bool.and_eq_true, decide_eq_true_eq] at h
    obtain ⟨⟨hkind, hslot⟩, htime⟩ := h
    exact ⟨slot, time, hlast, hkind, hslot, by omega⟩

/-- A session has met the gesture while its window was open, and did not take it for an echo. -/
def GestureOutcome.isManual : GestureOutcome → Bool
  | .synthetic | .ignored .noSession | .ignored .windowClosed => false
  | .ignored .notResultSlot | .ignored .cloneStack | .ignored .notHandled => true
  | .unsupported | .traded _ => true

theorem GestureOutcome.isManual_of_mem_refusals (h : answer ∈ refusals) :
    answer.isManual = true := by
  revert answer
  decide

namespace Exchange

theorem withSession_self (h : x.sessions id = some s) : x.withSession id (some s) = x := by
  unfold withSession
  rw [← h]
  congr
  funext i
  split
  case isTrue hi => rw [hi]
  case isFalse => rfl

theorem handle_synthetic (h : x.handle id k g scene = (.synthetic, x', scene')) :
    x' = x ∧ scene' = scene ∧ ∃ s, x.sessions id = some s ∧ s.echo.isEcho g = true := by
  rcases handle_session h with ⟨⟨⟨⟩⟩ | ⟨⟨⟩⟩, -⟩ | ⟨s, s', hs, hh, rfl⟩
  cases Session.handled hh with
  | echo hf => exact ⟨withSession_self hs, rfl, s, hs, hf⟩
  | refused _ ha => simp [GestureOutcome.refusals] at ha

/-! ## Playing without echoes -/

def lastManual (last : Option (Int32 × UInt64)) (played : List PlayedGesture) :
    Option (Int32 × UInt64) :=
  played.foldl
    (fun last p => if p.outcome.isManual then some (p.gesture.slot, p.gesture.timestamp) else last)
    last

theorem echo_of_handle (hs : x.sessions id = some s)
    (h : x.handle id k g scene = (answer, x', scene')) :
    ∃ s', x'.sessions id = some s' ∧ s'.echo = { s.echo with
      last := lastManual s.echo.last [{ index := n, gesture := g, outcome := answer }] } := by
  rcases handle_session h with ⟨hanswer, rfl, -⟩ | ⟨s₁, s', hs₁, hh, rfl⟩
  · refine ⟨s, hs, ?_⟩
    rcases hanswer with rfl | rfl <;> rfl
  · obtain rfl : s = s₁ := Option.some.inj (hs.symm.trans hs₁)
    refine ⟨s', if_pos rfl, ?_⟩
    cases Session.handled hh with
    | echo => rfl
    | refused _ ha =>
      simp [Session.remember, lastManual, GestureOutcome.isManual_of_mem_refusals ha]
    | answered _ hanswered => exact congrArg Session.echo hanswered.series.session

theorem exists_session_of_handle (h : x.handle id k g scene = (answer, x', scene'))
    (hs' : x'.sessions id = some s') : ∃ s, x.sessions id = some s := by
  rcases handle_session h with ⟨-, rfl, -⟩ | ⟨s, _, hs, -⟩
  · exact ⟨s', hs'⟩
  · exact ⟨s, hs⟩

/-- An echo is a bulk move on another slot than that of the last manual gesture, and not long after
it. -/
theorem isEcho_of_play (h : x.play k id n gestures scene = (pre ++ p :: post, x', scene'))
    (hp : p.outcome = .synthetic) :
    ∃ s slot time, x.sessions id = some s ∧ lastManual s.echo.last pre = some (slot, time) ∧
      p.gesture.kind = .moveToOther ∧ p.gesture.slot ≠ slot ∧
      p.gesture.timestamp.toNat < time.toNat + s.echo.window.toNat := by
  induction gestures generalizing n x scene pre with
  | nil => cases pre <;> cases h
  | cons g gestures ih =>
    obtain ⟨outcome, x₁, scene₁, rest, hg, hrest, heq⟩ := play_cons h
    cases pre with
    | nil =>
      obtain ⟨rfl, rfl⟩ := List.cons.inj heq
      obtain rfl : outcome = .synthetic := hp
      obtain ⟨-, -, s, hs, hf⟩ := handle_synthetic hg
      obtain ⟨slot, time, hlast, hecho⟩ := EchoFilter.of_isEcho hf
      exact ⟨s, slot, time, hs, hlast, hecho⟩
    | cons q pre =>
      obtain ⟨rfl, rfl⟩ := List.cons.inj heq
      obtain ⟨s₁, slot, time, hs₁, hlast, hecho⟩ := ih hrest
      obtain ⟨s, hs⟩ := exists_session_of_handle hg hs₁
      obtain ⟨s', hs', hs'echo⟩ := echo_of_handle (n := n) hs hg
      obtain rfl : s' = s₁ := Option.some.inj (hs'.symm.trans hs₁)
      rw [hs'echo] at hlast hecho
      exact ⟨s, slot, time, hs, hlast, hecho⟩

def withoutEchoes (played : List PlayedGesture) : List PlayedGesture :=
  played.filter (·.outcome ≠ .synthetic)

theorem play_withoutEchoes (h : x.play k id n gestures scene = (played, x', scene'))
    (hr : scene.Relabelled ρ twin) (m : Nat) :
    ∃ rest twin', x.play k id m ((withoutEchoes played).map (·.gesture)) twin = (rest, x', twin') ∧
      rest.map (·.outcome) = (withoutEchoes played).map (·.outcome) ∧
      scene'.Relabelled ρ twin' := by
  induction gestures generalizing n m x scene twin played with
  | nil =>
    cases h
    exact ⟨[], twin, rfl, rfl, hr⟩
  | cons g gestures ih =>
    obtain ⟨outcome, x₁, scene₁, rest, hg, hrest, rfl⟩ := play_cons h
    by_cases hsynthetic : outcome = .synthetic
    · subst hsynthetic
      obtain ⟨rfl, rfl, -⟩ := handle_synthetic hg
      exact ih hrest hr m
    · have hkept : withoutEchoes ({ index := n, gesture := g, outcome } :: rest) =
          { index := n, gesture := g, outcome } :: withoutEchoes rest :=
        List.filter_cons_of_pos (by simpa using hsynthetic)
      have hparallel : x.Parallel id k ρ (Scene.Relabelled ρ : Scene σ → Scene σ → Prop) :=
        fun s _ => Session.parallel_relabelled k x.settings s.actor ρ
      obtain ⟨-, twin₁, htwin, hr₁⟩ := hparallel.handle hr hg
      obtain ⟨rest', twin', hrest', houtcomes, hr'⟩ := ih hrest hr₁ (m + 1)
      rw [hkept]
      refine ⟨_, twin', play_cons_eq htwin hrest', ?_, hr'⟩
      rw [List.map_cons, List.map_cons, houtcomes]

/-- Echoes can be left out of the gestures of an actor. The other gestures have the same outcomes
then, tell the same but for trade ids, and lead to the same sessions, window, inventory and
container. Each echo is a bulk move on another slot than the last manual gesture before it, and its
time is less than that gesture's plus the window for echoes. -/
theorem play_echoes (h : x.play k id n gestures scene = (played, x', scene')) :
    (∀ (ρ : TradeId → TradeId → Prop) (twin : Scene σ) (m : Nat), scene.Relabelled ρ twin →
      ∃ rest twin',
        x.play k id m ((withoutEchoes played).map (·.gesture)) twin = (rest, x', twin') ∧
          rest.map (·.outcome) = (withoutEchoes played).map (·.outcome) ∧
          scene'.Relabelled ρ twin') ∧
    ∀ pre p post, played = pre ++ p :: post → p.outcome = .synthetic →
      ∃ s slot time, x.sessions id = some s ∧ lastManual s.echo.last pre = some (slot, time) ∧
        p.gesture.kind = .moveToOther ∧ p.gesture.slot ≠ slot ∧
        p.gesture.timestamp.toNat < time.toNat + s.echo.window.toNat := by
  constructor
  · intro ρ twin m hr
    exact play_withoutEchoes h hr m
  · rintro pre p post rfl hp
    exact isEcho_of_play h hp

def echoScene : Scene Container where
  window := (Window.ofRecipes (.ofNat 1)
    (Session.diamondStall.recipes .standard (some (Container.mk [some (.plain "diamond" 2), none]
      false false 0 0))).1).place { slot1 := some (.plain "emerald" 6) }
  inventory := {}
  container := some { contents := [some (.plain "diamond" 2), none] }
  listener := fun _ _ => .allow
  ids := .ofNat

def echoExchange : Exchange := openSession { settings := {} } { id := .ofNat 1, name := "customer" }

/-- Two pickups. The first one is echoed; a second bulk move comes too late for an echo. -/
def echoGestures : List Gesture :=
  [{ slot := resultSlot, kind := .pickupAll, timestamp := 100 },
    { slot := 0, kind := .moveToOther, timestamp := 90 },
    { slot := 0, kind := .moveToOther, timestamp := 350 },
    { slot := resultSlot, kind := .pickupAll, timestamp := 400 }]

def echoPlayed : List PlayedGesture × Exchange × Scene Container :=
  echoExchange.play Session.diamondStall (.ofNat 1) 0 echoGestures echoScene

theorem play_echoes_echoScene :
    echoPlayed.1.map (·.outcome) =
        [.traded 1, .synthetic, .ignored .notResultSlot, .traded 1] ∧
      (withoutEchoes echoPlayed.1).map (·.gesture) = echoGestures.eraseIdx 1 ∧
      ∃ rest twin',
        echoExchange.play Session.diamondStall (.ofNat 1) 0
            ((withoutEchoes echoPlayed.1).map (·.gesture)) echoScene =
          (rest, echoPlayed.2.1, twin') ∧
        rest.map (·.outcome) = (withoutEchoes echoPlayed.1).map (·.outcome) ∧
        echoPlayed.2.2.Relabelled (· = ·) twin' := by
  have h := play_echoes (rfl : echoExchange.play Session.diamondStall (.ofNat 1) 0 echoGestures
    echoScene = (echoPlayed.1, echoPlayed.2.1, echoPlayed.2.2))
  exact ⟨by decide, by decide, h.1 _ echoScene 0 echoScene.relabelled_self⟩

end Exchange

end Bazaar
