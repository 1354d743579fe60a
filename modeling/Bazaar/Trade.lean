import Bazaar.Party
import Bazaar.Recipe.Matching
import Bazaar.Shop.Staging

/-! # Trades

A trade is a deal between an actor and a shop on its way to being committed or aborted. What it
tells the outside is a summary for review before it is committed, and one event at its end.
-/

namespace Bazaar

/-- What the actor pays: the offered stacks in the amounts of the recipe. -/
def Deal.paid (d : Deal) : Stack × Option Stack :=
  let second := match d.second, d.recipe.second with
    | some offered, some required => some (offered.withAmount required.amount)
    | _, _ => none
  (d.first.withAmount d.recipe.first.amount, second)

/-- The shop and the actor reckon the payment each on their own, with one result. -/
theorem Deal.received_eq_paid (d : Deal) : d.received = d.paid := rfl

/-- The contents of a container before a trade and those it would have after it. -/
structure Staged where
  before : Slots
  after : Slots
  deriving DecidableEq

def Staged.isChanged (s : Staged) : Bool := s.before ≠ s.after

/-- One matched trade attempt. -/
structure Trade where
  id : TradeId
  shop : ShopId
  actor : Actor
  deal : Deal
  order : Order
  /-- The number of the attempt within its gesture, from 1 on. -/
  index : Amount
  staged : Option Staged := none
  deriving DecidableEq

/-- What is known of a trade before it is committed. -/
structure PendingTrade where
  trade : TradeId
  shop : ShopId
  actor : Actor
  recipe : Recipe
  offered1 : Stack
  offered2 : Option Stack
  swapped : Bool
  deriving DecidableEq

structure CommittedTrade where
  trade : TradeId
  shop : ShopId
  actor : ActorId
  recipe : Recipe
  paid1 : Stack
  paid2 : Option Stack
  swapped : Bool
  index : Amount
  deriving DecidableEq

/-- What is told of an aborted trade. Without an id it was given up before it was matched. -/
structure AbortedTrade where
  trade : Option TradeId
  shop : ShopId
  actor : ActorId
  reason : AbortReason
  deriving DecidableEq

inductive Event
  | committed (details : CommittedTrade)
  | aborted (details : AbortedTrade)
  | recipesChanged (shop : ShopId) (actor : ActorId)
  deriving DecidableEq

namespace Trade

/-- What stays in the two offered slots after the trade. -/
def remaining (t : Trade) : Offered :=
  let first := t.deal.first.decreasedBy t.deal.recipe.first.amount
  let second := t.deal.second.bind (·.decreasedBy t.deal.recipe.secondAmount)
  match t.order with
  | .asIs => { slot1 := first, slot2 := second }
  | .swapped => { slot1 := second, slot2 := first }

def pending (t : Trade) : PendingTrade where
  trade := t.id
  shop := t.shop
  actor := t.actor
  recipe := t.deal.recipe
  offered1 := t.deal.paid.1
  offered2 := t.deal.paid.2
  swapped := t.order.isSwapped

def committed (t : Trade) : CommittedTrade where
  trade := t.id
  shop := t.shop
  actor := t.actor.id
  recipe := t.deal.recipe
  paid1 := t.deal.paid.1
  paid2 := t.deal.paid.2
  swapped := t.order.isSwapped
  index := t.index

def aborted (t : Trade) (reason : AbortReason) : AbortedTrade where
  trade := some t.id
  shop := t.shop
  actor := t.actor.id
  reason := reason

end Trade

end Bazaar
