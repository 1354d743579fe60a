import Bazaar.Codec.Item
import Bazaar.Settings
import Bazaar.Shop

/-! # Shops, currency and tax as data -/

namespace Bazaar

instance : Codec PriceOffer where
  encode o := .record [("item", encode o.item), ("price", encode o.price)]
  decode? := readRecord ["item", "price"] fun fs => do
    let item ← fs.required "item"
    let price ← fs.required "price"
    return { item, price }

instance : Codec BookOffer where
  encode o := .record [("title", encode o.title), ("price", encode o.price)]
  decode? := readRecord ["title", "price"] fun fs => do
    let title ← fs.required "title"
    let price ← fs.required "price"
    return { title, price }

instance : Codec TradeOffer where
  encode o := .record [("result", encode o.result), ("item1", encode o.first),
    ("item2", encode o.second)]
  decode? := readRecord ["result", "item1", "item2"] fun fs => do
    let result ← fs.required "result"
    let first ← fs.required "item1"
    let second ← fs.optional "item2"
    return { result, first, second }

namespace ShopKind

def name : ShopKind → String
  | admin => "Admin"
  | selling => "Selling"
  | buying => "Buying"
  | trading => "Trading"
  | book => "Book"

def all : List ShopKind := [admin, selling, buying, trading, book]

instance : Codec ShopKind where
  encode k := .text k.name
  decode? := readName name all

end ShopKind

namespace Shop

def encodeOffers : Shop → Data
  | admin offers | trading offers => encode offers
  | selling offers | buying offers => encode offers
  | book offers => encode offers

variable {τ : Type} [Source τ]

def decodeOffers? (d : τ) : ShopKind → Option Shop
  | .admin => (decode? d).map admin
  | .selling => (decode? d).map selling
  | .buying => (decode? d).map buying
  | .trading => (decode? d).map trading
  | .book => (decode? d).map book

/-- The offers come before the kind of shop that they are offers of. -/
def offersFirst (fs : Fields τ) : Bool :=
  (fs.entries.map (·.1)).find? (fun name => name = "type" || name = "offers") = some "offers"

/-- A shop is a record of its kind and its offers. Offers that come before the kind are kept until
it is known. -/
instance : Codec Shop where
  encode s := .record [("type", encode s.kind), ("offers", s.encodeOffers)]
  decode? := readRecord ["type", "offers"] fun fs => do
    let kind ← fs.required "type"
    let offers ← (← fs.value? "offers")
    if offersFirst fs then decodeOffers? (← Source.buffer? offers) kind
    else decodeOffers? offers kind

end Shop

instance : Codec HighCurrency where
  encode h := .record [("item", encode h.item), ("value", encode h.value),
    ("min_cost", encode h.minCost)]
  decode? := readRecord ["item", "value", "min_cost"] fun fs => do
    let item ← fs.required "item"
    let value ← fs.required "value"
    let minCost ← fs.required "min_cost"
    return { item, value, minCost }

instance : Codec Currency where
  encode c := .record [("item", encode c.item), ("high", encode c.high)]
  decode? := readRecord ["item", "high"] fun fs => do
    let item ← fs.required "item"
    let high ← fs.nullable "high"
    return { item, high }

instance : Codec TaxPolicy where
  encode p := .record [("rate_percent", encode p.percent), ("round_up", encode p.roundUp)]
  decode? := readRecord ["rate_percent", "round_up"] fun fs => do
    let percent ← fs.required "rate_percent"
    let roundUp ← fs.required "round_up"
    return { percent, roundUp }

instance : Encode Settings where
  encode s := .record [("comparison", encode s.comparison),
    ("prevent_trading_with_own_shop", encode s.preventOwnShop),
    ("prevent_trading_while_owner_online", encode s.preventOwnerOnline),
    ("tax", encode s.tax), ("currency", encode s.currency),
    ("window_ms", encode s.echoWindow),
    ("debug_empty_trades", encode s.logEmptyTrades)]

end Bazaar
