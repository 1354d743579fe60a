import Bazaar.Codec.Ledger
import Bazaar.Codec.Outcome
import Bazaar.Scenario

/-! # Playing scenarios

A scenario is played by handing its gestures to an exchange with one session. The report tells
what became of each gesture, the events with the totals of their ledger, and what everybody has in
the end.
-/

namespace Bazaar

structure PlayedGesture where
  index : Nat
  gesture : Gesture
  outcome : GestureOutcome
  deriving DecidableEq

structure Report where
  scenario : String
  gestures : List PlayedGesture
  events : List Event
  ledger : Ledger.Summary
  container : Option Slots
  storage : Slots
  cursor : Option Stack
  deriving DecidableEq

instance : Encode PlayedGesture where
  encode p := .record [("index", encode p.index), ("gesture", encode p.gesture),
    ("outcome", encode p.outcome.name)]

instance : Encode Report where
  encode r := .record [("scenario", encode r.scenario), ("gestures", encode r.gestures),
    ("events", encode r.events), ("ledger", encode r.ledger), ("container", encode r.container),
    ("storage", encode r.storage), ("cursor", encode r.cursor)]

namespace Scenario

def trader (s : Scenario) : Actor :=
  { id := .ofNat 0, name := s.actor.name, canBypass := s.actor.canBypass }

/-- The shop with its owner, who is the actor if the names are the same. -/
def shopkeeper (s : Scenario) : Shopkeeper where
  profile := {
    id := .ofNat 0
    name := s.shop.name
    owner := s.shop.owner.map fun o => {
      id := if o.name = s.actor.name then s.trader.id else .ofNat 1
      name := o.name
      online := o.online } }
  shop := s.shop.definition

/-- Denies the results of some item types. -/
def listener (s : Scenario) (_ : List PendingTrade) (t : PendingTrade) : Verdict :=
  if s.denied.contains t.recipe.result.kind.item then .deny else .allow

def props (s : Scenario) : Except Flaw (Option Container × Inventory) :=
  if s.gestures.isEmpty then .error .noGestures
  else
    match s.container with
    | none => s.inventory.build.map fun inventory => (none, inventory)
    | some c => c.build.bind fun container =>
        s.inventory.build.map fun inventory => (some container, inventory)

/-- The scene before the first gesture, in which the actor has opened the window and placed the
offered stacks. -/
def opening (s : Scenario) (settings : Settings) (ids : Nat → TradeId)
    (container : Option Container) (inventory : Inventory) : Scene Container :=
  let (recipes, container) := s.shopkeeper.recipes settings.currency container
  { window := (Window.ofRecipes s.trader.id recipes).place s.offered
    inventory, container
    listener := s.listener
    ids }

end Scenario

/-- Hand gestures to an exchange one after the other, counting them from an index. -/
def Exchange.play {σ : Type} [Storage σ] (k : Shopkeeper) (actor : ActorId) :
    Nat → List Gesture → Exchange → Scene σ → List PlayedGesture × Exchange × Scene σ
  | _, [], x, scene => ([], x, scene)
  | index, gesture :: rest, x, scene =>
    let (outcome, x, scene) := x.handle actor k gesture scene
    let (played, x, scene) := play k actor (index + 1) rest x scene
    ({ index, gesture, outcome } :: played, x, scene)

namespace Scenario

/-- Play the gestures of a scenario under some settings and a supply of trade ids, up to the last
scene. -/
def perform (s : Scenario) (settings : Settings) (ids : Nat → TradeId) :
    Except Flaw (List PlayedGesture × Scene Container) :=
  s.props.map fun (container, inventory) =>
    let x := Exchange.openSession { settings } s.trader
    let (gestures, _, scene) :=
      x.play s.shopkeeper s.trader.id 0 s.gestures (s.opening settings ids container inventory)
    (gestures, scene)

def report (s : Scenario) (gestures : List PlayedGesture) (scene : Scene Container) : Report where
  scenario := s.name
  gestures
  events := scene.journal.events
  ledger := (scene.journal.events.foldl Ledger.listen {}).summary
  container := scene.container.map (·.contents)
  storage := scene.inventory.storage
  cursor := scene.inventory.cursor

/-- Play a scenario and report what came of it. -/
def replayWith (s : Scenario) (settings : Settings) (ids : Nat → TradeId) : Except Flaw Report :=
  (s.perform settings ids).map fun (gestures, scene) => s.report gestures scene

/-- Play a scenario with trade ids in the order of the numbers. -/
def replay (s : Scenario) (settings : Settings) : Except Flaw Report :=
  s.replayWith settings Id.ofNat

end Scenario

end Bazaar
