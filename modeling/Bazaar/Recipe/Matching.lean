import Bazaar.Recipe

/-! # Matching offered stacks with recipes

An actor may put the two offered stacks into the slots in either order. A stack pays for a
requirement when it is large enough and its kind satisfies the required one; a missing
requirement is paid by a missing stack only. Empty stacks count as missing on both sides.
-/

namespace Bazaar

/-- How two offered stacks line up with the two requirements of a recipe. -/
inductive Order
  | asIs | swapped
  deriving DecidableEq

def Order.isSwapped (o : Order) : Bool := o = .swapped

/-- The stacks in the two offered slots of a trading window. -/
structure Offered where
  slot1 : Option Stack := none
  slot2 : Option Stack := none
  deriving DecidableEq

/-- The offered stacks in the order of the requirements they are meant for. -/
def Offered.arrange (o : Offered) : Order → Option Stack × Option Stack
  | .asIs => (o.slot1, o.slot2)
  | .swapped => (o.slot2, o.slot1)

/-- An offered stack pays for a requirement. -/
def pays (comparison : Comparison) (offered required : Option Stack) : Bool :=
  match nonEmpty? offered, nonEmpty? required with
  | none, none => true
  | some _, none | none, some _ => false
  | some o, some r => r.amount ≤ o.amount && o.kind.satisfies r.kind comparison

namespace Recipe

/-- What a recipe requires of the two offered slots. -/
def requirements (r : Recipe) : Order → Option Stack × Option Stack
  | .asIs => (some r.first, r.second)
  | .swapped => (r.second, some r.first)

/-- The offered stacks pay for the recipe in a given order. -/
def paidBy (r : Recipe) (o : Offered) (comparison : Comparison) (order : Order) : Bool :=
  let (required1, required2) := r.requirements order
  pays comparison o.slot1 required1 && pays comparison o.slot2 required2

/-- It does not matter whether the requirements are put in the order of the slots or the offered
stacks in that of the requirements. -/
theorem paidBy_eq_pays_arrange (r : Recipe) (o : Offered) (comparison : Comparison)
    (order : Order) :
    r.paidBy o comparison order = (pays comparison (o.arrange order).1 (some r.first) &&
      pays comparison (o.arrange order).2 r.second) := by
  cases order with
  | asIs => rfl
  | swapped => exact Bool.and_comm _ _

/-- The order in which the offered stacks pay for the recipe; the given order comes before the
reverse one. -/
def match? (r : Recipe) (o : Offered) (comparison : Comparison) : Option Order :=
  if !r.isValid then none
  else if r.paidBy o comparison .asIs then some .asIs
  else if r.paidBy o comparison .swapped then some .swapped
  else none

end Recipe

/-- The recipe that a trading window selects, with its place in the displayed list. -/
structure Active where
  index : Nat
  recipe : Recipe
  order : Order
  deriving DecidableEq

/-- The selected recipe, counting places from a given one. -/
def activeFrom (o : Offered) : Nat → List Recipe → Option Active
  | _, [] => none
  | i, r :: rs =>
    if r.outOfStock then activeFrom o (i + 1) rs
    else match r.match? o .lenient with
      | some order => some { index := i, recipe := r, order }
      | none => activeFrom o (i + 1) rs

/-- The first displayed recipe that is in stock and paid under lenient comparison. -/
def active? (recipes : List Recipe) (o : Offered) : Option Active := activeFrom o 0 recipes

end Bazaar
