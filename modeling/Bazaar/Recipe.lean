import Bazaar.Item

/-! # Trading recipes

A recipe asks for one or two stacks and gives one. It is what an actor sees of an offer.
-/

namespace Bazaar

/-- One or two required stacks and the stack given for them. -/
structure Recipe where
  first : Stack
  second : Option Stack := none
  result : Stack
  outOfStock : Bool := false
  deriving DecidableEq

inductive RecipeError
  | emptyFirst | emptyResult
  deriving DecidableEq

def RecipeError.message : RecipeError → String
  | .emptyFirst => "recipe item1 must not be empty"
  | .emptyResult => "recipe result must not be empty"

namespace Recipe

/-- The recipe of given stacks. An empty second stack is left out, the other two are needed. -/
def make (first : Stack) (second : Option Stack) (result : Stack) : Except RecipeError Recipe :=
  if first.isEmpty then .error .emptyFirst
  else if result.isEmpty then .error .emptyResult
  else .ok { first, second := nonEmpty? second, result }

def make? (first : Stack) (second : Option Stack) (result : Stack) : Option Recipe :=
  (make first second result).toOption

def flagged (r : Recipe) (outOfStock : Bool) : Recipe := { r with outOfStock }

def isValid (r : Recipe) : Bool := !r.first.isEmpty && !r.result.isEmpty

def secondAmount (r : Recipe) : Amount := amountIn r.second

def sameResult (r s : Recipe) : Bool := r.result.similar s.result

def describeStack (s : Stack) : String := s!"{s.amount.val}x{s.kind.item}"

/-- A one-line description such as 3xemerald + 1xbook -> 1xdiamond. -/
def describe (r : Recipe) : String :=
  let second := match r.second with
    | none => ""
    | some s => " + " ++ describeStack s
  describeStack r.first ++ second ++ " -> " ++ describeStack r.result

end Recipe

end Bazaar
