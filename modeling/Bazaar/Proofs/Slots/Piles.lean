import Bazaar.Proofs.Slots.Total
import Mathlib.Data.List.Basic

/-! # Slot lists without a limit

A pile is a stack in natural numbers. The operations on slot lists are stated here once more on
lists of piles, where no sum is cut down. On the piles of a slot list they do what the operations on
the slot list do: no amount that they compute reaches the end of its range.
-/

namespace Bazaar

/-- A stack whose amount and maximum size may be any numbers. -/
structure Pile where
  kind : Kind
  amount : Nat
  maxSize : Nat
  deriving DecidableEq

namespace Pile

def withAmount (t : Pile) (n : Nat) : Pile := { t with amount := n }

def isEmpty (t : Pile) : Bool := t.amount = 0

def similar (t u : Pile) : Bool := t.kind = u.kind

def freeSpace (t : Pile) : Nat := t.maxSize - t.amount

def decreasedBy (t : Pile) (n : Nat) : Option Pile :=
  if t.amount - n = 0 then none else some (t.withAmount (t.amount - n))

end Pile

abbrev Piles := List (Option Pile)

namespace Piles

def occupied : Option Pile → Bool
  | none => false
  | some t => !t.isEmpty

def topUp (s : Pile) : Nat → Piles → Piles × Nat
  | n, [] => ([], n)
  | n, none :: r =>
    let (r, left) := topUp s n r
    (none :: r, left)
  | n, some t :: r =>
    if t.isEmpty || !t.similar s then
      let (r, left) := topUp s n r
      (some t :: r, left)
    else
      let moved := min t.freeSpace n
      let (r, left) := topUp s (n - moved) r
      (some (t.withAmount (t.amount + moved)) :: r, left)

def fill (s : Pile) : Nat → Piles → Piles × Nat
  | n, [] => ([], n)
  | n, slot :: r =>
    if n = 0 || occupied slot then
      let (r, left) := fill s n r
      (slot :: r, left)
    else
      let moved := min (max s.maxSize 1) n
      let (r, left) := fill s (n - moved) r
      (some (s.withAmount moved) :: r, left)

/-- Put a pile in. Returns the number of items that did not fit. -/
def add (s : Pile) (piles : Piles) : Piles × Nat :=
  let (piles, left) := topUp s s.amount piles
  fill s left piles

def remove (pick : Pile → Bool) : Nat → Piles → Piles × Nat
  | n, [] => ([], n)
  | n, none :: r =>
    let (r, missing) := remove pick n r
    (none :: r, missing)
  | n, some t :: r =>
    if t.isEmpty || !pick t then
      let (r, missing) := remove pick n r
      (some t :: r, missing)
    else
      let taken := min t.amount n
      let (r, missing) := remove pick (n - taken) r
      (t.decreasedBy taken :: r, missing)

end Piles

namespace Stack

def pile (s : Stack) : Pile := ⟨s.kind, s.amount.val, s.maxSize.val⟩

variable {s t : Stack} {n : Amount}

theorem pile_injective : Function.Injective pile := by
  rintro ⟨κ, a, m⟩ ⟨κ', a', m'⟩ h
  simp only [pile, Pile.mk.injEq] at h
  obtain ⟨rfl, ha, hm⟩ := h
  rw [Amount.ext ha, Amount.ext hm]

@[simp] theorem isEmpty_pile (s : Stack) : s.pile.isEmpty = s.isEmpty := by
  rw [Pile.isEmpty, isEmpty, decide_eq_decide, Amount.ext_iff]
  rfl

@[simp] theorem similar_pile (s t : Stack) : s.pile.similar t.pile = s.similar t := rfl

theorem freeSpace_pile (s : Stack) : s.pile.freeSpace = s.freeSpace.val := by
  rw [freeSpace, Amount.val_sub]
  rfl

theorem withAmount_pile (s : Stack) (n : Amount) :
    s.pile.withAmount n.val = (s.withAmount n).pile := rfl

theorem decreasedBy_pile (s : Stack) (n : Amount) :
    s.pile.decreasedBy n.val = (s.decreasedBy n).map pile := by
  have hval : s.pile.amount - n.val = (s.amount - n).val := (Amount.val_sub _ _).symm
  rw [Pile.decreasedBy, decreasedBy, hval]
  by_cases hz : s.amount - n = 0
  · simp [hz]
  · have hval : (s.amount - n).val ≠ 0 := fun h => hz (Amount.ext h)
    rw [if_neg hz, if_neg hval, withAmount_pile, Option.map_some]

end Stack

namespace Slots

variable {s t : Stack} {n : Amount} {slots after : Slots}

def piles (slots : Slots) : Piles := slots.map (Option.map Stack.pile)

@[simp] theorem piles_cons (slot : Option Stack) (r : Slots) :
    piles (slot :: r) = slot.map Stack.pile :: piles r := rfl

theorem piles_injective : Function.Injective piles :=
  List.map_injective_iff.2 (Option.map_injective Stack.pile_injective)

theorem occupied_pile (slot : Option Stack) :
    Piles.occupied (slot.map Stack.pile) = occupied slot := by
  cases slot with
  | none => rfl
  | some t => simp [Piles.occupied, occupied]

theorem topUp_piles (s : Stack) (n : Amount) (slots : Slots) :
    Piles.topUp s.pile n.val slots.piles =
      ((topUp s n slots).1.piles, (topUp s n slots).2.val) := by
  induction slots generalizing n with
  | nil => rfl
  | cons slot r ih =>
    cases slot with
    | none =>
      rw [piles_cons, Option.map_none, Piles.topUp, topUp, ih]
      rfl
    | some t =>
      rw [piles_cons, Option.map_some, Piles.topUp, topUp, Stack.isEmpty_pile, Stack.similar_pile]
      split
      · rw [ih]
        rfl
      · have hmoved : min t.pile.freeSpace n.val = (min t.freeSpace n).val := by
          rw [Stack.freeSpace_pile, Amount.val_min]
        have hamount : t.pile.amount + (min t.freeSpace n).val = (t.topped n).amount.val := by
          rw [t.val_amount_topped, Amount.val_min]
          rfl
        dsimp only
        rw [hmoved, hamount, ← Amount.val_sub, ih]
        rfl

theorem fill_piles (s : Stack) (n : Amount) (slots : Slots) :
    Piles.fill s.pile n.val slots.piles =
      ((fill s n slots).1.piles, (fill s n slots).2.val) := by
  induction slots generalizing n with
  | nil => rfl
  | cons slot r ih =>
    have hzero : decide (n.val = 0) = decide (n = 0) := by simp [Amount.ext_iff]
    rw [piles_cons, Piles.fill, fill, occupied_pile, hzero]
    split
    · rw [ih]
      rfl
    · have hmoved : min (max s.pile.maxSize 1) n.val = (min (max s.maxSize 1) n).val := by
        rw [Amount.val_min, Amount.val_max, Amount.val_one]
        rfl
      dsimp only
      rw [hmoved, ← Amount.val_sub, ih]
      rfl

theorem add_piles (s : Stack) (slots : Slots) :
    Piles.add s.pile slots.piles = ((add s slots).1.piles, (add s slots).2.val) := by
  have htop := topUp_piles s s.amount slots
  change Piles.topUp s.pile s.pile.amount slots.piles = _ at htop
  rw [Piles.add, htop]
  exact fill_piles s _ _

theorem remove_piles {pick : Pile → Bool} {p : Pick} (hp : ∀ t : Stack, pick t.pile = p t)
    (n : Amount) (slots : Slots) :
    Piles.remove pick n.val slots.piles =
      ((remove p n slots).1.piles, (remove p n slots).2.val) := by
  induction slots generalizing n with
  | nil => rfl
  | cons slot r ih =>
    cases slot with
    | none =>
      rw [piles_cons, Option.map_none, Piles.remove, remove, ih]
      rfl
    | some t =>
      rw [piles_cons, Option.map_some, Piles.remove, remove, Stack.isEmpty_pile, hp]
      split
      · rw [ih]
        rfl
      · have htaken : min t.pile.amount n.val = (min t.amount n).val := (Amount.val_min _ _).symm
        dsimp only
        rw [htaken, Stack.decreasedBy_pile, ← Amount.val_sub, ih]
        rfl

end Slots

end Bazaar
