import Bazaar.Item
import Bazaar.Party

/-! # Ledger entries

Every entry moves a stack that is not empty. A payment goes from an actor to a shop and a delivery
from a shop to an actor.
-/

namespace Bazaar

inductive EntryKind
  | payment | delivery
  deriving DecidableEq

def EntryKind.name : EntryKind → String
  | .payment => "Payment"
  | .delivery => "Delivery"

/-- A side of a movement of items. -/
inductive Party
  | actor (id : ActorId)
  | shop (id : ShopId)
  deriving DecidableEq

inductive PartyKind
  | actor | shop
  deriving DecidableEq

def PartyKind.name : PartyKind → String
  | .actor => "actor"
  | .shop => "shop"

def Party.kind : Party → PartyKind
  | .actor _ => .actor
  | .shop _ => .shop

/-- One booked movement of items. -/
structure Entry where
  trade : TradeId
  kind : EntryKind
  source : Party
  target : Party
  item : Stack
  deriving DecidableEq

/-- The parts that an entry cannot do without. -/
inductive EntryField
  | source | target | item
  deriving DecidableEq

def EntryField.name : EntryField → String
  | .source => "from"
  | .target => "to"
  | .item => "item"

inductive LedgerError
  | zeroAmount
  | missingField (field : EntryField)
  | invalidParty (kind : EntryKind) (field : EntryField) (expected actual : PartyKind)
  | duplicateTrade (trade : TradeId)
  deriving DecidableEq

def LedgerError.message : LedgerError → String
  | .zeroAmount => "ledger entry amount must be non-zero"
  | .missingField field => s!"missing required field: {field.name}"
  | .invalidParty kind field expected actual =>
    s!"invalid party for {kind.name} {field.name}: expected {expected.name}, got {actual.name}"
  | .duplicateTrade trade => s!"trade {trade.uuid.render} is already recorded"

def EntryKind.parties : EntryKind → PartyKind × PartyKind
  | .payment => (.actor, .shop)
  | .delivery => (.shop, .actor)

namespace Entry

/-- The entry is a movement that its kind allows. -/
def check (e : Entry) : Except LedgerError Unit :=
  if e.item.isEmpty then .error .zeroAmount
  else if e.source.kind ≠ e.kind.parties.1 then
    .error (.invalidParty e.kind .source e.kind.parties.1 e.source.kind)
  else if e.target.kind ≠ e.kind.parties.2 then
    .error (.invalidParty e.kind .target e.kind.parties.2 e.target.kind)
  else .ok ()

/-- The checked entry of the given parts. A missing part is reported before anything else. -/
def make (trade : TradeId) (kind : EntryKind) (source target : Option Party)
    (item : Option Stack) : Except LedgerError Entry :=
  match source, target, item with
  | none, _, _ => .error (.missingField .source)
  | _, none, _ => .error (.missingField .target)
  | _, _, none => .error (.missingField .item)
  | some source, some target, some item =>
    let e : Entry := { trade, kind, source, target, item }
    e.check.map fun _ => e

end Entry

end Bazaar
