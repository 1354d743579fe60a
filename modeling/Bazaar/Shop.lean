import Bazaar.Recipe
import Bazaar.Currency

/-! # Shops and their offers

A shop has one kind and a list of offers. Player shops supply their trades from a container;
an admin shop has no container and never runs out.
-/

namespace Bazaar

/-- An item that is sold or bought for a price. -/
structure PriceOffer where
  item : Stack
  price : Amount
  deriving DecidableEq

/-- A book whose copies are sold for a price. -/
structure BookOffer where
  title : String
  price : Amount
  deriving DecidableEq

/-- An item that is given for one or two other items. -/
structure TradeOffer where
  result : Stack
  first : Stack
  second : Option Stack := none
  deriving DecidableEq

def TradeOffer.recipe? (o : TradeOffer) : Option Recipe := Recipe.make? o.first o.second o.result

/-- The first offer of a similar item. -/
def PriceOffer.find? (offers : List PriceOffer) (item : Stack) : Option PriceOffer :=
  offers.find? fun o => o.item.similar item

def BookOffer.find? (offers : List BookOffer) (title : String) : Option BookOffer :=
  offers.find? fun o => o.title = title

/-- An offer has the stacks of a recipe, up to the amount of the result. -/
def TradeOffer.offers (o : TradeOffer) (r : Recipe) : Bool :=
  o.result.similar r.result && o.first.similar r.first && o.first.amount = r.first.amount &&
  match o.second, r.second with
  | none, none => true
  | some s, some t => s.similar t && s.amount = t.amount
  | _, _ => false

inductive ShopKind
  | admin | selling | buying | trading | book
  deriving DecidableEq

def ShopKind.usesContainer (k : ShopKind) : Bool := k ≠ .admin

inductive Shop
  /-- Gives items for items and has an endless supply. -/
  | admin (offers : List TradeOffer)
  /-- Sells items from its container for currency. -/
  | selling (offers : List PriceOffer)
  /-- Buys items for currency from its container. -/
  | buying (offers : List PriceOffer)
  /-- Gives items from its container for items. -/
  | trading (offers : List TradeOffer)
  /-- Sells copies of the written books in its container. -/
  | book (offers : List BookOffer)
  deriving DecidableEq

namespace Shop

def kind : Shop → ShopKind
  | admin _ => .admin
  | selling _ => .selling
  | buying _ => .buying
  | trading _ => .trading
  | book _ => .book

def usesContainer (s : Shop) : Bool := s.kind.usesContainer

end Shop

def writableBook : String := "writable_book"

def writtenBook : String := "written_book"

def Stack.isWritableBook (s : Stack) : Bool := s.kind.item = writableBook

end Bazaar
