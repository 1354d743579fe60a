import Bazaar.Exchange
import Mathlib.Data.List.Forall2

/-! # Alike scenes

Two scenes may look the same to an actor and differ in what stands behind them: the container, the
listener, the trade ids. Trade ids are mere names, so a relation tells which ids of one scene stand
for which ids of the other.
-/

namespace Bazaar

variable {σ τ : Type} {ρ : TradeId → TradeId → Prop} {scene : Scene σ} {twin : Scene τ} {t : Trade}
  {i : TradeId} {e e' : Event}

def Trade.withId (t : Trade) (i : TradeId) : Trade := { t with id := i }

structure PendingTrade.Alike (ρ : TradeId → TradeId → Prop) (t t' : PendingTrade) : Prop where
  id : ρ t.trade t'.trade
  rest : t' = { t with trade := t'.trade }

structure CommittedTrade.Alike (ρ : TradeId → TradeId → Prop) (d d' : CommittedTrade) : Prop where
  id : ρ d.trade d'.trade
  rest : d' = { d with trade := d'.trade }

structure AbortedTrade.Alike (ρ : TradeId → TradeId → Prop) (a a' : AbortedTrade) : Prop where
  id : Option.Rel ρ a.trade a'.trade
  rest : a' = { a with trade := a'.trade }

inductive Event.Alike (ρ : TradeId → TradeId → Prop) : Event → Event → Prop
  | committed {d d' : CommittedTrade} (h : d.Alike ρ d') : Alike ρ (.committed d) (.committed d')
  | aborted {a a' : AbortedTrade} (h : a.Alike ρ a') : Alike ρ (.aborted a) (.aborted a')
  | recipesChanged (shop : ShopId) (actor : ActorId) :
      Alike ρ (.recipesChanged shop actor) (.recipesChanged shop actor)

inductive Outcome.Alike (ρ : TradeId → TradeId → Prop) : Outcome → Outcome → Prop
  | idle (why : Idle) : Alike ρ (.idle why) (.idle why)
  | aborted (reason : AbortReason) : Alike ρ (.aborted reason) (.aborted reason)
  | committed {d d' : CommittedTrade} (h : d.Alike ρ d') : Alike ρ (.committed d) (.committed d')

structure Journal.Alike (ρ : TradeId → TradeId → Prop) (j j' : Journal) : Prop where
  reviews : List.Forall₂ (PendingTrade.Alike ρ) j.reviews j'.reviews
  events : List.Forall₂ (Event.Alike ρ) j.events j'.events
  applied : j'.applied = j.applied
  aborted : j'.aborted = j.aborted
  issued : j'.issued = j.issued

/-- Two scenes look the same and have told the same, up to the ids of trades. -/
structure Scene.Alike (ρ : TradeId → TradeId → Prop) (scene : Scene σ) (twin : Scene τ) : Prop where
  window : twin.window = scene.window
  inventory : twin.inventory = scene.inventory
  ids : ∀ n, ρ (scene.ids n) (twin.ids n)
  journal : scene.journal.Alike ρ twin.journal

theorem Trade.alike_pending (h : ρ t.id i) : t.pending.Alike ρ (t.withId i).pending := ⟨h, rfl⟩

theorem Trade.alike_committed (h : ρ t.id i) : t.committed.Alike ρ (t.withId i).committed :=
  ⟨h, rfl⟩

theorem Trade.alike_aborted (h : ρ t.id i) (reason : AbortReason) :
    (t.aborted reason).Alike ρ ((t.withId i).aborted reason) :=
  ⟨.some h, rfl⟩

theorem Journal.alike_self (hρ : ∀ i, ρ i i) (j : Journal) : j.Alike ρ j where
  reviews := List.forall₂_same.2 fun t _ => ⟨hρ t.trade, rfl⟩
  events := by
    refine List.forall₂_same.2 fun e _ => ?_
    cases e with
    | committed d => exact .committed ⟨hρ d.trade, rfl⟩
    | recipesChanged shop actor => exact .recipesChanged shop actor
    | aborted a =>
      refine .aborted ⟨?_, rfl⟩
      cases a.trade with
      | none => exact .none
      | some i => exact .some (hρ i)
  applied := rfl
  aborted := rfl
  issued := rfl

theorem Scene.alike_of_same (hw : twin.window = scene.window)
    (hi : twin.inventory = scene.inventory) (hj : twin.journal = scene.journal) :
    scene.Alike (fun i j => i = j ∨ ∃ n, i = scene.ids n ∧ j = twin.ids n) twin where
  window := hw
  inventory := hi
  ids n := Or.inr ⟨n, rfl, rfl⟩
  journal := hj ▸ Journal.alike_self (fun _ => Or.inl rfl) _

namespace Scene.Alike

theorem nextId (h : scene.Alike ρ twin) : ρ scene.nextId twin.nextId := by
  unfold Scene.nextId
  rw [h.journal.issued]
  exact h.ids _

theorem cursorHoldsResult (h : scene.Alike ρ twin) :
    twin.cursorHoldsResult = scene.cursorHoldsResult := by
  unfold Scene.cursorHoldsResult
  rw [h.window, h.inventory]

theorem issue (h : scene.Alike ρ twin) : scene.issue.Alike ρ twin.issue where
  window := h.window
  inventory := h.inventory
  ids := h.ids
  journal := { h.journal with issued := congrArg (· + 1) h.journal.issued }

theorem emit (h : scene.Alike ρ twin) (he : e.Alike ρ e') :
    (scene.emit e).Alike ρ (twin.emit e') where
  window := h.window
  inventory := h.inventory
  ids := h.ids
  journal := { h.journal with events := List.rel_append h.journal.events (.cons he .nil) }

theorem abort (h : scene.Alike ρ twin) (hi : ρ t.id i) (reason : AbortReason) :
    (scene.abort t reason).Alike ρ (twin.abort (t.withId i) reason) where
  window := h.window
  inventory := h.inventory
  ids := h.ids
  journal := { h.journal with
    events := List.rel_append h.journal.events (.cons (.aborted (t.alike_aborted hi reason)) .nil)
    aborted := congrArg (· + 1) h.journal.aborted }

theorem apply (h : scene.Alike ρ twin) (hi : ρ t.id i) :
    (scene.apply t).Alike ρ (twin.apply (t.withId i)) where
  window := h.window
  inventory := h.inventory
  ids := h.ids
  journal := { h.journal with
    events := List.rel_append h.journal.events (.cons (.committed (t.alike_committed hi)) .nil)
    applied := congrArg (· + 1) h.journal.applied }

end Scene.Alike

end Bazaar
