import Bazaar.Party
import Bazaar.Recipe.Matching

/-! # Trading windows

A window shows the recipes of a shop, two slots for offered stacks and the result of the recipe
that it selects for them. Whenever an offered slot or the recipes change, it selects anew.
-/

namespace Bazaar

/-- A trading window as its viewer sees it. -/
structure Window where
  viewer : ActorId
  isOpen : Bool := true
  offered : Offered := {}
  result : Option Stack := none
  recipes : List Recipe
  /-- How often the displayed recipes were replaced. -/
  updates : Nat := 0
  deriving DecidableEq

namespace Window

def ofRecipes (viewer : ActorId) (recipes : List Recipe) : Window := { viewer, recipes }

def isOpenFor (w : Window) (actor : ActorId) : Bool := w.isOpen && w.viewer = actor

def close (w : Window) : Window := { w with isOpen := false }

/-- Show the result of the active recipe. -/
def reselect (w : Window) : Window :=
  { w with result := (active? w.recipes w.offered).map (·.recipe.result) }

def place (w : Window) (o : Offered) : Window :=
  reselect { w with offered := { slot1 := nonEmpty? o.slot1, slot2 := nonEmpty? o.slot2 } }

/-- Replace the stack in one offered slot; other slots cannot be set. -/
def setOffered (w : Window) (slot : Int32) (stack : Option Stack) : Window :=
  if slot = 0 then reselect { w with offered := { w.offered with slot1 := nonEmpty? stack } }
  else if slot = 1 then reselect { w with offered := { w.offered with slot2 := nonEmpty? stack } }
  else w

def setResult (w : Window) (stack : Option Stack) : Window := { w with result := nonEmpty? stack }

/-- Replace the displayed recipes. The list never gets shorter: recipes beyond the end of the new
list stay, out of stock. -/
def update (w : Window) (recipes : List Recipe) : Window :=
  reselect { w with
    recipes := recipes ++ (w.recipes.drop recipes.length).map (·.flagged true)
    updates := w.updates + 1 }

end Window

end Bazaar
