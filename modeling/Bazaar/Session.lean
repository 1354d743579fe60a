import Bazaar.Gesture
import Bazaar.Scene

/-! # Trade attempts

An attempt looks at the window, matches a trade, lets the shop prepare it, puts it before the
listener and commits it. Nothing is written before the listener agrees. After that only a refused
write can abort the trade, and a container that was written already gets its old contents back.
-/

namespace Bazaar

/-- One actor's dealings with a window. -/
structure Session where
  actor : Actor
  echo : EchoFilter
  /-- The number of trades that the current gesture has matched. -/
  counter : Amount := 0
  deriving DecidableEq

inductive Idle
  | emptyResult | noActiveRecipe | noMatch
  deriving DecidableEq

inductive Outcome
  | idle (why : Idle)
  | aborted (reason : AbortReason)
  | committed (details : CommittedTrade)
  deriving DecidableEq

/-- What the state of a window asks for. -/
inductive Selection
  | idle (why : Idle)
  /-- The selected recipe is not the displayed one. -/
  | inconsistent
  | matched (deal : Deal) (order : Order)
  deriving DecidableEq

/-- The deal that a window asks for. The recipe is the one that the window selects; the offered
stacks have to pay for it under the given comparison too. -/
def Window.select (w : Window) (comparison : Comparison) : Selection :=
  match w.result with
  | none => .idle .emptyResult
  | some result =>
    match active? w.recipes w.offered with
    | none => .idle .noActiveRecipe
    | some a =>
      if a.recipe.result ≠ result then .inconsistent
      else match a.recipe.match? w.offered comparison with
        | none => .idle .noMatch
        | some order =>
          match w.offered.arrange order with
          | (none, _) => .inconsistent
          | (some first, second) => .matched { recipe := a.recipe, first, second } order

namespace Session

def start (actor : Actor) (settings : Settings) : Session :=
  { actor, echo := { window := settings.echoWindow } }

/-- Count the trades of a gesture from zero. -/
def beginGesture (s : Session) : Session := { s with counter := 0 }

variable {σ : Type} [Storage σ]

/-- Write everything that a prepared and reviewed trade changes. -/
def commit (t : Trade) (payout : Payout) (scene : Scene σ) : Outcome × Scene σ :=
  match t.commitEffects scene.container with
  | (.error _, container) =>
    (.aborted .storageWriteFailed, { scene with container }.abort t .storageWriteFailed)
  | (.ok (), container) =>
    match scene.inventory.pay payout with
    | .error _ =>
      let (_, container) := t.rollbackEffects container
      (.aborted .storageWriteFailed, { scene with container }.abort t .storageWriteFailed)
    | .ok inventory =>
      let left := t.remaining
      let window := ((scene.window.setResult none).setOffered 0 left.slot1).setOffered 1 left.slot2
      (.committed t.committed, { scene with window, inventory, container }.apply t)

/-- Prepare a matched trade, put it before the listener and commit it. -/
def carryOut (k : Shopkeeper) (settings : Settings) (t : Trade) (payout : Payout)
    (scene : Scene σ) : Outcome × Scene σ :=
  match k.ready settings t scene.container with
  | (.error reason, t, container) => (.aborted reason, { scene with container }.abort t reason)
  | (.ok (), t, container) =>
    match { scene with container }.review t.pending with
    | (.deny, scene) => (.aborted .vetoed, scene.abort t .vetoed)
    | (.allow, scene) => commit t payout scene

/-- A trade that is not prepared is aborted as it was. -/
theorem carryOut_eq (k : Shopkeeper) (settings : Settings) (t : Trade) (payout : Payout)
    (scene : Scene σ) :
    carryOut k settings t payout scene =
      match k.prepare settings t scene.container with
      | (.error reason, container) => (.aborted reason, { scene with container }.abort t reason)
      | (.ok t, container) =>
        match { scene with container }.review t.pending with
        | (.deny, scene) => (.aborted .vetoed, scene.abort t .vetoed)
        | (.allow, scene) => commit t payout scene := by
  unfold carryOut
  rw [Shopkeeper.ready_eq]
  rcases k.prepare settings t scene.container with ⟨_ | _, container⟩
  · rfl
  · rfl

/-- Try one trade with the current state of the window. -/
def attempt (s : Session) (k : Shopkeeper) (settings : Settings) (payout : Payout)
    (scene : Scene σ) : Outcome × Session × Scene σ :=
  match scene.window.select settings.comparison with
  | .idle why => (.idle why, s, scene)
  | .inconsistent =>
    (.aborted .internalInconsistency, s, scene.emit (.aborted {
      trade := none, shop := k.profile.id, actor := s.actor.id, reason := .internalInconsistency }))
  | .matched deal order =>
    let s := { s with counter := s.counter + 1 }
    let t : Trade := {
      id := scene.nextId, shop := k.profile.id, actor := s.actor, deal, order, index := s.counter }
    let (outcome, scene) := carryOut k settings t payout scene.issue
    (outcome, s, scene)

end Session

end Bazaar
