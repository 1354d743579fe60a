import Bazaar.Ledger

/-! # Balance of a trade

A booked trade has one or two payments from one actor to one shop and exactly one delivery back.
-/

namespace Bazaar

inductive Imbalance
  | payments (number : Nat)
  | deliveries (number : Nat)
  | parties
  deriving DecidableEq

def Imbalance.message (trade : TradeId) (i : Imbalance) : String :=
  let problem := match i with
    | .payments n => s!"{n} payments"
    | .deliveries n => s!"{n} deliveries"
    | .parties => "payment parties differ from delivery"
  s!"trade {trade.uuid.render}: {problem}"

inductive Balance
  | balanced
  /-- The trade has no entries. -/
  | unknown
  | unbalanced (why : Imbalance)
  deriving DecidableEq

def Ledger.balance (l : Ledger) (trade : TradeId) : Balance :=
  let payments := (l.entriesFor trade).filter fun e => e.kind = .payment
  let deliveries := (l.entriesFor trade).filter fun e => e.kind = .delivery
  if payments.isEmpty && deliveries.isEmpty then .unknown
  else if payments.length = 0 || 2 < payments.length then .unbalanced (.payments payments.length)
  else match deliveries with
    | [d] =>
      if payments.all fun p => p.source = d.target && p.target = d.source then .balanced
      else .unbalanced .parties
    | _ => .unbalanced (.deliveries deliveries.length)

end Bazaar
