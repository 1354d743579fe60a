import Bazaar.Ledger.Entry
import Bazaar.Trade

/-! # The trade ledger

The ledger is an append-only log of committed trades in double entry: each trade books a payment
for every stack that the actor handed over, and the delivery of the result. A trade is booked once.
Aborted attempts are not booked but counted by reason.
-/

namespace Bazaar

/-- Entries in the order of booking, with the trades they belong to, and tallies. -/
structure Ledger where
  entries : List Entry := []
  /-- The booked trades, each once. -/
  trades : List TradeId := []
  /-- The reason of every aborted attempt. -/
  aborts : List AbortReason := []
  /-- How often recipes were announced to have changed. -/
  refreshes : Nat := 0
  deriving DecidableEq

namespace Ledger

def entriesFor (l : Ledger) (trade : TradeId) : List Entry :=
  l.entries.filter fun e => e.trade = trade

def abortCount (l : Ledger) (reason : AbortReason) : Nat := l.aborts.count reason

/-- The booked trades together with one more. -/
def tradesWith (l : Ledger) (trade : TradeId) : List TradeId :=
  if trade ∈ l.trades then l.trades else l.trades ++ [trade]

/-- Append an entry as it is. -/
def append (l : Ledger) (e : Entry) : Ledger :=
  { l with entries := l.entries ++ [e], trades := l.tradesWith e.trade }

end Ledger

/-- The entries of a committed trade: what was paid, then what was delivered. -/
def CommittedTrade.entries (d : CommittedTrade) : Except LedgerError (List Entry) :=
  let payment (item : Stack) :=
    Entry.make d.trade .payment (some (.actor d.actor)) (some (.shop d.shop)) (some item)
  let delivery :=
    Entry.make d.trade .delivery (some (.shop d.shop)) (some (.actor d.actor))
      (some d.recipe.result)
  ((d.paid1 :: d.paid2.toList).mapM payment).bind fun payments =>
    delivery.map fun e => payments ++ [e]

namespace Ledger

/-- Book a committed trade. All its entries are checked before any is appended. -/
def recordCommitted (l : Ledger) (d : CommittedTrade) : InPlace LedgerError Ledger :=
  if d.trade ∈ l.trades then (.error (.duplicateTrade d.trade), l)
  else match d.entries with
    | .error why => (.error why, l)
    | .ok es => (.ok (), { l with entries := l.entries ++ es, trades := l.tradesWith d.trade })

def recordAborted (l : Ledger) (d : AbortedTrade) : Ledger :=
  { l with aborts := l.aborts ++ [d.reason] }

/-- Book or count an event. -/
def record (l : Ledger) : Event → InPlace LedgerError Ledger
  | .committed d => l.recordCommitted d
  | .aborted d => (.ok (), l.recordAborted d)
  | .recipesChanged _ _ => (.ok (), { l with refreshes := l.refreshes + 1 })

/-- Listen to an event. What cannot be booked is passed over. -/
def listen (l : Ledger) (e : Event) : Ledger := (l.record e).2

structure Summary where
  committed : Nat
  /-- The items that actors paid, by item type. -/
  paid : Table Nat
  /-- The items that shops delivered, by item type. -/
  delivered : Table Nat
  /-- The aborted attempts, by the tag of their reason. -/
  aborted : Table Nat
  refreshes : Nat
  deriving DecidableEq

/-- The amounts moved by the entries of one kind, by item type. -/
def totals (l : Ledger) (kind : EntryKind) : Table Nat :=
  (l.entries.filter fun e => e.kind = kind).foldl
    (fun t e => t.tally e.item.kind.item e.item.amount.val) ∅

def summary (l : Ledger) : Summary where
  committed := l.trades.length
  paid := l.totals .payment
  delivered := l.totals .delivery
  aborted := l.aborts.foldl (fun t r => t.tally r.tag 1) ∅
  refreshes := l.refreshes

end Ledger

end Bazaar
