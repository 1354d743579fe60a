import Bazaar.Slots

/-! # Storages

A storage is read and replaced as a whole. A refused write leaves it as it was.
-/

namespace Bazaar

inductive StorageError
  | containerUnloaded
  | containerLocked
  | inventoryLocked
  | noSlot (index : Nat)
  /-- The failure was planned. -/
  | scheduled
  deriving DecidableEq

namespace StorageError

/-- The storage was out of reach, as opposed to refusing a write. -/
def isUnreachable (e : StorageError) : Bool := e = .containerUnloaded

def reason : StorageError → String
  | containerUnloaded => "container is unloaded"
  | containerLocked => "container is locked"
  | inventoryLocked => "inventory is locked"
  | noSlot index => s!"no storage slot {index}"
  | scheduled => "scheduled failure"

def message (e : StorageError) : String :=
  (if e.isUnreachable then "container unreachable: " else "container rejected write: ") ++ e.reason

end StorageError

/-- Values that store slots. Reading and writing may leave traces in the value. -/
class Storage (σ : Type) where
  read : σ → Except StorageError Slots × σ
  write : σ → Slots → Except StorageError Unit × σ

namespace Storage

variable {σ : Type} [Storage σ]

/-- Put a stack into a storage, which is written if anything fits. Returns what did not fit. -/
def addItems (s : Stack) (c : σ) : Except StorageError Amount × σ :=
  match read c with
  | (.error e, c) => (.error e, c)
  | (.ok slots, c) =>
    let (slots, left) := slots.add s
    if left < s.amount then
      match write c slots with
      | (.error e, c) => (.error e, c)
      | (.ok (), c) => (.ok left, c)
    else (.ok left, c)

/-- Take items out of a storage, which is written if there are any. Returns how many were taken. -/
def removeItems (pick : Slots.Pick) (n : Amount) (c : σ) : Except StorageError Amount × σ :=
  match read c with
  | (.error e, c) => (.error e, c)
  | (.ok slots, c) =>
    let (slots, missing) := slots.remove pick n
    let removed := n - missing
    if removed = 0 then (.ok removed, c)
    else
      match write c slots with
      | (.error e, c) => (.error e, c)
      | (.ok (), c) => (.ok removed, c)

end Storage

/-- The container of a shop. It counts how often it is read, and how often successfully written. -/
structure Container where
  contents : Slots
  locked : Bool := false
  unloaded : Bool := false
  reads : Nat := 0
  writes : Nat := 0
  deriving DecidableEq

namespace Container

def empty (slots : Nat) : Container := { contents := List.replicate slots none }

def read (c : Container) : Except StorageError Slots × Container :=
  let next := { c with reads := c.reads + 1 }
  if c.unloaded then (.error .containerUnloaded, next) else (.ok c.contents, next)

def write (c : Container) (slots : Slots) : Except StorageError Unit × Container :=
  if c.unloaded then (.error .containerUnloaded, c)
  else if c.locked then (.error .containerLocked, c)
  else (.ok (), { c with contents := slots, writes := c.writes + 1 })

instance : Storage Container := ⟨read, write⟩

end Container

/-- A container some of whose writes are planned to fail. Writes are numbered from 1. -/
structure Rehearsal where
  container : Container
  failing : List Nat := []
  attempts : Nat := 0
  deriving DecidableEq

namespace Rehearsal

def read (r : Rehearsal) : Except StorageError Slots × Rehearsal :=
  let (result, container) := r.container.read
  (result, { r with container })

def write (r : Rehearsal) (slots : Slots) : Except StorageError Unit × Rehearsal :=
  let attempts := r.attempts + 1
  if attempts ∈ r.failing then (.error .scheduled, { r with attempts })
  else
    let (result, container) := r.container.write slots
    (result, { r with container, attempts })

instance : Storage Rehearsal := ⟨read, write⟩

end Rehearsal

end Bazaar
