import Bazaar.Codec.Trade
import Bazaar.Instant
import Bazaar.Ledger.Balance

/-! # The ledger as data -/

namespace Bazaar

instance : Codec EntryKind where
  encode k := .text k.name
  decode? := readName EntryKind.name [.payment, .delivery]

/-- A party is a choice named for the sort of party, with its id. -/
instance : Codec Party where
  encode
    | .actor id => .record [("Actor", encode id)]
    | .shop id => .record [("Shop", encode id)]
  decode? d :=
    match Source.choice? ["Actor", "Shop"] d with
    | some ("Actor", some d) => (decode? d).map .actor
    | some ("Shop", some d) => (decode? d).map .shop
    | _ => none

namespace Entry

def fields (e : Entry) : List (String × Data) :=
  [("trade_id", encode e.trade), ("kind", encode e.kind), ("from", encode e.source),
    ("to", encode e.target), ("item", encode e.item)]

def names : List String := ["trade_id", "kind", "from", "to", "item"]

def read {τ : Type} [Source τ] (fs : Fields τ) : Option Entry := do
  let trade ← fs.required "trade_id"
  let kind ← fs.required "kind"
  let source ← fs.required "from"
  let target ← fs.required "to"
  let item ← fs.required "item"
  return { trade, kind, source, target, item }

instance : Codec Entry where
  encode e := .record e.fields
  decode? := readRecord names read

end Entry

instance : Codec Instant where
  encode i := .text i.render
  decode? d := (Source.text? d).bind Instant.parse?

/-- An entry as it is exported, with its own id and the time of booking. -/
structure BookedEntry where
  id : EntryId
  entry : Entry
  bookedAt : Instant
  deriving DecidableEq

instance : Codec BookedEntry where
  encode b := .record (("id", encode b.id) :: b.entry.fields ++ [("created_at", encode b.bookedAt)])
  decode? := readRecord ("id" :: Entry.names ++ ["created_at"]) fun fs => do
    let id ← fs.required "id"
    let entry ← Entry.read fs
    let bookedAt ← fs.required "created_at"
    return { id, entry, bookedAt }

instance : Encode Ledger.Summary where
  encode s := .record [("committed_trades", encode s.committed), ("paid", encode s.paid),
    ("delivered", encode s.delivered), ("aborted", encode s.aborted),
    ("recipe_refreshes", encode s.refreshes)]

end Bazaar
