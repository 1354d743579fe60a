import Bazaar.Slots

/-! # Currency

Prices count items of the low currency. With a high currency, amounts above its minimum are paid
in high currency as far as possible and in low currency for the rest.
-/

namespace Bazaar

/-- An item worth several items of the low currency. -/
structure HighCurrency where
  /-- The item; its amount means nothing. -/
  item : Stack
  /-- The worth of one item. -/
  value : Amount
  /-- The largest amount that is paid in low currency alone. -/
  minCost : Amount
  deriving DecidableEq

/-- The items that serve as money. -/
structure Currency where
  /-- The low currency; its amount means nothing. -/
  item : Stack
  high : Option HighCurrency
  deriving DecidableEq

namespace Currency

/-- Emeralds, and blocks of nine of them for amounts above twenty. -/
def standard : Currency where
  item := .plain "emerald" 1
  high := some { item := .plain "emerald_block" 1, value := 9, minCost := 20 }

instance : Inhabited Currency := ⟨standard⟩

def lowStack (c : Currency) (n : Amount) : Stack := c.item.withAmount n

def highStack? (c : Currency) (n : Amount) : Option Stack := c.high.map fun h => h.item.withAmount n

def isLow (c : Currency) (s : Stack) : Bool := s.similar c.item

def isHigh (c : Currency) (s : Stack) : Bool :=
  match c.high with
  | none => false
  | some h => s.similar h.item

/-- The high currency, where it has a worth and the amount exceeds its minimum. -/
def highFor? (c : Currency) (n : Amount) : Option HighCurrency :=
  c.high.filter fun h => decide (0 < h.value) && decide (h.minCost < n)

/-- A price as counts of high and low currency. The high count is at most one stack. -/
def split (c : Currency) (price : Amount) : Amount × Amount :=
  match c.highFor? price with
  | none => (0, price)
  | some h =>
    let count := min (price / h.value) h.item.maxSize
    (count, price - count * h.value)

/-- The one or two stacks that a recipe asks for a price: high before low currency. There are
none for a zero price, or if the low part exceeds one stack. -/
def cost? (c : Currency) (price : Amount) : Option (Stack × Option Stack) :=
  let (high, low) := c.split price
  if c.item.maxSize < low then none
  else match nonEmpty? (c.highStack? high), nonEmpty? (some (c.lowStack low)) with
    | some h, l => some (h, l)
    | none, some l => some (l, none)
    | none, none => none

/-- The worth of a stack in low currency; nothing else than currency has any. -/
def valueOf (c : Currency) (s : Stack) : Amount :=
  if c.isLow s then s.amount
  else match c.high with
    | some h => if s.similar h.item then s.amount * h.value else 0
    | none => 0

def totalValue (c : Currency) (slots : Slots) : Amount :=
  slots.reduceOption.foldl (fun n s => n + c.valueOf s) 0

/-- Put currency of some worth into the slots: high currency first where it applies, low currency
for what remains. Returns the worth that did not fit. -/
def deposit (c : Currency) (n : Amount) (slots : Slots) : Slots × Amount :=
  match c.highFor? n with
  | none => Slots.add (c.lowStack n) slots
  | some h =>
    let count := n / h.value
    let (slots, left) := Slots.add (h.item.withAmount count) slots
    Slots.add (c.lowStack (n - (count - left) * h.value)) slots

/-- Take currency of some worth out of the slots. Low currency goes first; high currency pays the
rest, rounded up to whole items, and the change is put back as low currency. This is done on a
working copy, and the slots stay as they are if the currency is short or the change does not fit.
Returns whether the amount was paid. -/
def withdraw (c : Currency) (n : Amount) (slots : Slots) : Bool × Slots :=
  let (working, short) := Slots.remove c.isLow n slots
  if short = 0 then (true, working)
  else match c.high with
    | none => (false, slots)
    | some h =>
      if h.value = 0 then (false, slots)
      else
        let count := short.ceilDiv h.value
        let (working, missing) := Slots.remove c.isHigh count working
        if missing ≠ 0 then (false, slots)
        else
          let (working, left) := Slots.add (c.lowStack (count * h.value - short)) working
          if left = 0 then (true, working) else (false, slots)

/-- The slots after a withdrawal, if it pays the amount. -/
def withdraw? (c : Currency) (n : Amount) (slots : Slots) : Option Slots :=
  let (paid, slots) := c.withdraw n slots
  if paid then some slots else none

theorem withdraw?_eq (c : Currency) (n : Amount) (slots : Slots) :
    c.withdraw? n slots =
      let (low, short) := Slots.remove c.isLow n slots
      if short = 0 then some low
      else match c.high with
        | none => none
        | some h =>
          if h.value = 0 then none
          else
            let count := short.ceilDiv h.value
            let (high, missing) := Slots.remove c.isHigh count low
            if missing ≠ 0 then none
            else
              let (after, left) := Slots.add (c.lowStack (count * h.value - short)) high
              if left = 0 then some after else none := by
  unfold withdraw? withdraw
  dsimp only
  split
  · rfl
  split
  · rfl
  split
  · rfl
  split
  · rfl
  split
  · rfl
  · rfl

/-- A withdrawal takes the whole amount or leaves the slots as they are. -/
theorem withdraw_eq (c : Currency) (n : Amount) (slots : Slots) :
    c.withdraw n slots = ((c.withdraw? n slots).isSome, (c.withdraw? n slots).getD slots) := by
  unfold withdraw? withdraw
  dsimp only
  split
  · rfl
  split
  · rfl
  split
  · rfl
  split
  · rfl
  split
  · rfl
  · rfl

end Currency

end Bazaar
