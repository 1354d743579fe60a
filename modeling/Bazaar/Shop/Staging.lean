import Bazaar.Abort
import Bazaar.InPlace
import Bazaar.Settings
import Bazaar.Shop

/-! # Staging a trade on the contents of a container

A shop carries out its side of a trade on a copy of what its container holds: what it gives goes
out first, then what it receives comes in. It stops at the first thing that fails and leaves the
copy as it is by then.
-/

namespace Bazaar

/-- A recipe with the stacks that are offered for its requirements. -/
structure Deal where
  recipe : Recipe
  first : Stack
  second : Option Stack := none
  deriving DecidableEq

/-- What the shop receives: the offered stacks in the amounts of the recipe. -/
def Deal.received (d : Deal) : Stack × Option Stack :=
  let second := match d.second, d.recipe.second with
    | some offered, some required => some (offered.withAmount required.amount)
    | _, _ => none
  (d.first.withAmount d.recipe.first.amount, second)

/-- Put a stack into the contents. All of it has to fit. -/
def receive (s : Stack) (slots : Slots) : InPlace AbortReason Slots :=
  let (slots, left) := slots.add s
  (if left = 0 then .ok () else .error .insufficientStorageSpace, slots)

/-- Put the earnings of a sale into the contents, less the tax. All of them have to fit. -/
def earn (settings : Settings) (price : Amount) (slots : Slots) : InPlace AbortReason Slots :=
  let (slots, left) := settings.currency.deposit (settings.tax.net price) slots
  (if left = 0 then .ok () else .error .insufficientStorageSpace, slots)

def give (pick : Slots.Pick) (n : Amount) (reason : AbortReason) (slots : Slots) :
    InPlace AbortReason Slots :=
  let (slots, missing) := slots.remove pick n
  (if missing = 0 then .ok () else .error reason, slots)

def payOut (settings : Settings) (price : Amount) (slots : Slots) : InPlace AbortReason Slots :=
  let (paid, slots) := settings.currency.withdraw price slots
  (if paid then .ok () else .error .insufficientStock, slots)

namespace Shop

def stageSale (settings : Settings) (offers : List PriceOffer) (d : Deal) (slots : Slots) :
    InPlace AbortReason Slots :=
  match PriceOffer.find? offers d.recipe.result with
  | none => (.error .unexpectedTrade, slots)
  | some offer =>
    (give d.recipe.result.similar d.recipe.result.amount .insufficientStock slots).andThen
      (earn settings offer.price)

def stagePurchase (settings : Settings) (offers : List PriceOffer) (d : Deal) (slots : Slots) :
    InPlace AbortReason Slots :=
  match PriceOffer.find? offers d.recipe.first with
  | none => (.error .unexpectedTrade, slots)
  | some offer => (payOut settings offer.price slots).andThen (receive d.received.1)

def stageTrade (offers : List TradeOffer) (d : Deal) (slots : Slots) : InPlace AbortReason Slots :=
  if offers.any (·.offers d.recipe) then
    (give d.recipe.result.similar d.recipe.result.amount .insufficientStock slots).andThen
      fun slots => (receive d.received.1 slots).andThen fun slots =>
        match d.received.2 with
        | none => (.ok (), slots)
        | some second => receive second slots
  else (.error .unexpectedTrade, slots)

/-- The title under which a copy of a book was sold. -/
def copyTitle? (s : Stack) : Option String :=
  match s.kind.data.book with
  | some b => if b.generation.isCopy then b.title else none
  | none => none

def stageCopy (settings : Settings) (offers : List BookOffer) (d : Deal) (slots : Slots) :
    InPlace AbortReason Slots :=
  match (copyTitle? d.recipe.result).bind (BookOffer.find? offers) with
  | none => (.error .unexpectedTrade, slots)
  | some offer =>
    (give Stack.isWritableBook 1 .insufficientWritableBooks slots).andThen
      (earn settings offer.price)

/-- The shop's side of a trade, up to the first thing that prevents it. An admin shop leaves the
contents alone. -/
def work (settings : Settings) (d : Deal) (slots : Slots) : Shop → InPlace AbortReason Slots
  | admin _ => (.ok (), slots)
  | selling offers => stageSale settings offers d slots
  | buying offers => stagePurchase settings offers d slots
  | trading offers => stageTrade offers d slots
  | book offers => stageCopy settings offers d slots

/-- The contents after the shop's side of a trade, or the first thing that prevents it. -/
def stage (settings : Settings) (d : Deal) (slots : Slots) (shop : Shop) :
    Except AbortReason Slots :=
  shop.work settings d slots

end Shop

end Bazaar
