import Bazaar.Codec.Gesture
import Bazaar.Codec.Shop
import Bazaar.Codec.Trade
import Bazaar.Inventory
import Bazaar.Yaml

/-! # Scenarios

A scenario describes a shop with its container, an actor with an inventory and offered stacks, and
the gestures that the actor makes.
-/

namespace Bazaar

namespace Scenario

structure Player where
  name : String
  canBypass : Bool := false
  deriving DecidableEq

/-- The owner of a shop. An owner named like the actor is the actor. -/
structure Keeper where
  name : String
  online : Bool := false
  deriving DecidableEq

structure Stall where
  name : String
  owner : Option Keeper := none
  definition : Shop
  deriving DecidableEq

/-- The container of a shop. Its stacks fill the first slots. -/
structure Chest where
  slots : UInt64 := 27
  items : List Stack := []
  unloaded : Bool := false
  locked : Bool := false
  deriving DecidableEq

/-- The inventory of an actor. Slots that are not given are empty. -/
structure Pockets where
  storage : Slots := []
  cursor : Option Stack := none
  deriving DecidableEq

end Scenario

/-- A sequence of gestures and everything around it. -/
structure Scenario where
  name : String
  actor : Scenario.Player
  shop : Scenario.Stall
  container : Option Scenario.Chest := none
  inventory : Scenario.Pockets := {}
  offered : Offered := {}
  /-- The item types that a listener denies as results. -/
  denied : List String := []
  gestures : List Gesture
  deriving DecidableEq

namespace Scenario

inductive Flaw
  | noGestures
  | containerTooSmall (slots items : Nat)
  | storageTooLarge (slots : Nat)
  deriving DecidableEq

def Flaw.message : Flaw → String
  | .noGestures => "invalid scenario: scenario has no gestures"
  | .containerTooSmall slots items =>
    s!"invalid scenario: container has {slots} slots but {items} stacks"
  | .storageTooLarge slots =>
    s!"invalid scenario: inventory has {slots} storage slots, at most {Slots.storageSize} allowed"

/-- Slots without empty stacks, with empty slots behind them up to a number. -/
def padded (size : Nat) (slots : Slots) : Slots :=
  slots.map nonEmpty? ++ List.replicate (size - slots.length) none

def Chest.build (c : Chest) : Except Flaw Container :=
  if c.slots.toNat < c.items.length then
    .error (.containerTooSmall c.slots.toNat c.items.length)
  else .ok {
    contents := padded c.slots.toNat (c.items.map some)
    locked := c.locked
    unloaded := c.unloaded }

def Pockets.build (p : Pockets) : Except Flaw Inventory :=
  if Slots.storageSize < p.storage.length then .error (.storageTooLarge p.storage.length)
  else .ok { storage := padded Slots.storageSize p.storage, cursor := nonEmpty? p.cursor }

instance : Decode Player where
  decode? := readRecord ["name", "can_bypass"] fun fs => do
    let name ← fs.required "name"
    let canBypass ← fs.withDefault "can_bypass" false
    return { name, canBypass }

instance : Decode Keeper where
  decode? := readRecord ["name", "online"] fun fs => do
    let name ← fs.required "name"
    let online ← fs.withDefault "online" false
    return { name, online }

instance : Decode Stall where
  decode? := readRecord ["name", "owner", "definition"] fun fs => do
    let name ← fs.required "name"
    let owner ← fs.optional "owner"
    let definition ← fs.required "definition"
    return { name, owner, definition }

instance : Decode Chest where
  decode? := readRecord ["slots", "items", "unreachable", "reject_writes"] fun fs => do
    let slots ← fs.withDefault "slots" 27
    let items ← fs.withDefault "items" []
    let unloaded ← fs.withDefault "unreachable" false
    let locked ← fs.withDefault "reject_writes" false
    return { slots, items, unloaded, locked }

instance : Decode Pockets where
  decode? := readRecord ["storage", "cursor"] fun fs => do
    let storage ← fs.withDefault "storage" []
    let cursor ← fs.optional "cursor"
    return { storage, cursor }

instance : Decode Offered where
  decode? := readRecord ["slot1", "slot2"] fun fs => do
    let slot1 ← fs.optional "slot1"
    let slot2 ← fs.optional "slot2"
    return { slot1, slot2 }

instance : Decode Scenario where
  decode? := readRecord ["name", "actor", "shop", "container", "inventory", "offered",
      "deny_results", "gestures"] fun fs => do
    let name ← fs.required "name"
    let actor ← fs.required "actor"
    let shop ← fs.required "shop"
    let container ← fs.optional "container"
    let inventory ← fs.withDefault "inventory" {}
    let offered ← fs.withDefault "offered" {}
    let denied ← fs.withDefault "deny_results" []
    let gestures ← fs.required "gestures"
    return { name, actor, shop, container, inventory, offered, denied, gestures }

def parse? (text : String) : Option Scenario := (Yaml.parse? text).bind decode?

end Scenario

end Bazaar
