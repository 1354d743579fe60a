import Bazaar.Item

/-! # Slot lists

The contents of a container and of an actor's storage are lists of slots. Stacks are put in,
taken out and counted slot by slot; an insertion never fills a slot beyond the maximum size of
its stack.
-/

namespace Bazaar

/-- The slots of a container or storage. -/
abbrev Slots := List (Option Stack)

namespace Slots

/-- Some of the stacks in a list of slots. -/
abbrev Pick := Stack → Bool

def occupied (slot : Option Stack) : Bool :=
  match slot with
  | none => false
  | some s => !s.isEmpty

/-- Spread an amount over the stacks of the same kind, in slot order and each up to its own
maximum size. Returns the amount that is left. -/
def topUp (s : Stack) : Amount → Slots → Slots × Amount
  | n, [] => ([], n)
  | n, none :: r =>
    let (r, left) := topUp s n r
    (none :: r, left)
  | n, some t :: r =>
    if t.isEmpty || !t.similar s then
      let (r, left) := topUp s n r
      (some t :: r, left)
    else
      let moved := min t.freeSpace n
      let (r, left) := topUp s (n - moved) r
      (some (t.withAmount (t.amount + moved)) :: r, left)

/-- Spread an amount over the slots without items, in slot order and at most one maximum size
for each. Returns the amount that is left. -/
def fill (s : Stack) : Amount → Slots → Slots × Amount
  | n, [] => ([], n)
  | n, slot :: r =>
    if n = 0 || occupied slot then
      let (r, left) := fill s n r
      (slot :: r, left)
    else
      let moved := min (max s.maxSize 1) n
      let (r, left) := fill s (n - moved) r
      (some (s.withAmount moved) :: r, left)

/-- Put a stack into the slots: similar stacks are topped up first, the rest goes into slots
without items. Returns the amount that did not fit. -/
def add (s : Stack) (slots : Slots) : Slots × Amount :=
  let (slots, left) := topUp s s.amount slots
  fill s left slots

/-- Take items of the picked stacks, in slot order. Returns the amount that was missing. -/
def remove (pick : Pick) : Amount → Slots → Slots × Amount
  | n, [] => ([], n)
  | n, none :: r =>
    let (r, missing) := remove pick n r
    (none :: r, missing)
  | n, some t :: r =>
    if t.isEmpty || !pick t then
      let (r, missing) := remove pick n r
      (some t :: r, missing)
    else
      let taken := min t.amount n
      let (r, missing) := remove pick (n - taken) r
      (t.decreasedBy taken :: r, missing)

inductive CountError
  | overflow
  deriving DecidableEq

def CountError.message : CountError → String
  | .overflow => "arithmetic overflow in inventory computation: item count overflow"

/-- The amount of the picked items; an error when it is out of range. -/
def count (pick : Pick) (slots : Slots) : Except CountError Amount :=
  (slots.reduceOption.filter pick).foldlM
    (fun n s => match Amount.ofNat? (n.val + s.amount.val) with
      | some n => .ok n
      | none => .error .overflow) 0

/-- The slots hold at least some amount of the picked items. A count out of range is enough for
every amount. -/
def holds (pick : Pick) (n : Amount) (slots : Slots) : Bool :=
  match count pick slots with
  | .ok m => n ≤ m
  | .error _ => true

def hotbarSize : Nat := 9

def storageSize : Nat := 36

/-- Reverse the hotbar and the slots behind it, each for itself. -/
def reverseSections (slots : Slots) : Slots :=
  (slots.take hotbarSize).reverse ++ (slots.drop hotbarSize).reverse

/-- Put a stack into an actor's storage in the order in which a client fills it: the hotbar from
its last slot down, then the rest from its last slot down. -/
def addInClientOrder (s : Stack) (slots : Slots) : Slots × Amount :=
  let (slots, left) := add s (reverseSections slots)
  (reverseSections slots, left)

end Slots

end Bazaar
