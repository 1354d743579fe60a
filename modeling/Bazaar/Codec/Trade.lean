import Bazaar.Codec.Item
import Bazaar.Trade

/-! # Parties, trades and events as data -/

namespace Bazaar

instance : Codec Actor where
  encode a := .record [("id", encode a.id), ("name", encode a.name),
    ("can_bypass", encode a.canBypass)]
  decode? := readRecord ["id", "name", "can_bypass"] fun fs => do
    let id ← fs.required "id"
    let name ← fs.required "name"
    let canBypass ← fs.withDefault "can_bypass" false
    return { id, name, canBypass }

instance : Codec Owner where
  encode o := .record [("id", encode o.id), ("name", encode o.name), ("online", encode o.online)]
  decode? := readRecord ["id", "name", "online"] fun fs => do
    let id ← fs.required "id"
    let name ← fs.required "name"
    let online ← fs.withDefault "online" false
    return { id, name, online }

instance : Codec Profile where
  encode p := .record [("id", encode p.id), ("name", encode p.name), ("owner", encode p.owner)]
  decode? := readRecord ["id", "name", "owner"] fun fs => do
    let id ← fs.required "id"
    let name ← fs.required "name"
    let owner ← fs.optional "owner"
    return { id, name, owner }

namespace AbortReason

def name : AbortReason → String
  | selfTrade => "SelfTrade"
  | ownerOnline => "OwnerOnline"
  | missingContainer => "MissingContainer"
  | unexpectedTrade => "UnexpectedTrade"
  | insufficientStock => "InsufficientStock"
  | insufficientWritableBooks => "InsufficientWritableBooks"
  | insufficientStorageSpace => "InsufficientStorageSpace"
  | vetoed => "Vetoed"
  | internalInconsistency => "InternalInconsistency"
  | storageWriteFailed => "StorageWriteFailed"

instance : Codec AbortReason where
  encode r := .text r.name
  decode? := readName name all

end AbortReason

instance : Codec PendingTrade where
  encode t := .record [("trade_id", encode t.trade), ("shopkeeper_id", encode t.shop),
    ("actor", encode t.actor), ("recipe", encode t.recipe), ("offered1", encode t.offered1),
    ("offered2", encode t.offered2), ("swapped", encode t.swapped)]
  decode? := readRecord ["trade_id", "shopkeeper_id", "actor", "recipe", "offered1", "offered2",
      "swapped"] fun fs => do
    let trade ← fs.required "trade_id"
    let shop ← fs.required "shopkeeper_id"
    let actor ← fs.required "actor"
    let recipe ← fs.required "recipe"
    let offered1 ← fs.required "offered1"
    let offered2 ← fs.nullable "offered2"
    let swapped ← fs.required "swapped"
    return { trade, shop, actor, recipe, offered1, offered2, swapped }

instance : Codec CommittedTrade where
  encode t := .record [("trade_id", encode t.trade), ("shopkeeper_id", encode t.shop),
    ("actor_id", encode t.actor), ("recipe", encode t.recipe), ("paid1", encode t.paid1),
    ("paid2", encode t.paid2), ("swapped", encode t.swapped), ("trade_index", encode t.index)]
  decode? := readRecord ["trade_id", "shopkeeper_id", "actor_id", "recipe", "paid1", "paid2",
      "swapped", "trade_index"] fun fs => do
    let trade ← fs.required "trade_id"
    let shop ← fs.required "shopkeeper_id"
    let actor ← fs.required "actor_id"
    let recipe ← fs.required "recipe"
    let paid1 ← fs.required "paid1"
    let paid2 ← fs.nullable "paid2"
    let swapped ← fs.required "swapped"
    let index ← fs.required "trade_index"
    return { trade, shop, actor, recipe, paid1, paid2, swapped, index }

instance : Codec AbortedTrade where
  encode t := .record [("trade_id", encode t.trade), ("shopkeeper_id", encode t.shop),
    ("actor_id", encode t.actor), ("reason", encode t.reason)]
  decode? := readRecord ["trade_id", "shopkeeper_id", "actor_id", "reason"] fun fs => do
    let trade ← fs.nullable "trade_id"
    let shop ← fs.required "shopkeeper_id"
    let actor ← fs.required "actor_id"
    let reason ← fs.required "reason"
    return { trade, shop, actor, reason }

/-- An event is a choice named for what happened. The two ids of a change of recipes always stand
with their names. -/
instance : Codec Event where
  encode
    | .committed details => .record [("Committed", encode details)]
    | .aborted details => .record [("Aborted", encode details)]
    | .recipesChanged shop actor => .record [("RecipesChanged",
        .record [("shopkeeper_id", encode shop), ("actor_id", encode actor)])]
  decode? d :=
    match Source.choice? ["Committed", "Aborted", "RecipesChanged"] d with
    | some ("Committed", some d) => (decode? d).map .committed
    | some ("Aborted", some d) => (decode? d).map .aborted
    | some ("RecipesChanged", some d) => do
      let fs ← Source.fields? ["shopkeeper_id", "actor_id"] d
      if fs.positional then none
      let shop ← fs.required "shopkeeper_id"
      let actor ← fs.required "actor_id"
      return .recipesChanged shop actor
    | _ => none

end Bazaar
