import Bazaar.Storage

/-! # The inventory of an actor -/

namespace Bazaar

/-- The storage slots of an actor, and the stack that the cursor holds. -/
structure Inventory where
  storage : Slots := List.replicate Slots.storageSize none
  cursor : Option Stack := none
  locked : Bool := false
  deriving DecidableEq

/-- Where the result of a trade goes. -/
inductive Payout
  /-- The cursor holds this stack then. -/
  | cursor (stack : Stack)
  /-- The storage slot holds this stack then. -/
  | slot (index : Nat) (stack : Stack)
  /-- These are the storage slots then. -/
  | storage (contents : Slots)
  deriving DecidableEq

namespace Inventory

def setStorage (i : Inventory) (contents : Slots) : Except StorageError Inventory :=
  if i.locked then .error .inventoryLocked else .ok { i with storage := contents }

def setCursor (i : Inventory) (stack : Option Stack) : Except StorageError Inventory :=
  if i.locked then .error .inventoryLocked else .ok { i with cursor := nonEmpty? stack }

def pay (i : Inventory) : Payout → Except StorageError Inventory
  | .cursor stack => i.setCursor (some stack)
  | .slot index stack =>
    if index < i.storage.length then i.setStorage (i.storage.set index (some stack))
    else .error (.noSlot index)
  | .storage contents => i.setStorage contents

/-- The payout of a result onto the cursor, if it is empty or holds the same kind and has room. -/
def cursorPayout? (i : Inventory) (result : Stack) : Option Payout :=
  match i.cursor with
  | none => some (.cursor result)
  | some c =>
    if c.similar result && c.amount.val + result.amount.val ≤ c.maxSize.val
    then some (.cursor (c.withAmount (c.amount + result.amount))) else none

/-- The payout of a result into the hotbar slot of a button, if no stack is in that slot. -/
def hotbarPayout? (i : Inventory) (button : Option UInt8) (result : Stack) : Option Payout :=
  match button with
  | none => none
  | some b =>
    if b.toNat < Slots.hotbarSize && i.storage[b.toNat]? = some none
    then some (.slot b.toNat result) else none

end Inventory

end Bazaar
