import Bazaar.Shop

/-! # The recipes that a shop displays

Every offer is displayed as a recipe, if it makes one. A shop with a container flags the recipes
that its stock cannot supply; without its container it can supply none.
-/

namespace Bazaar

def PriceOffer.saleRecipe? (o : PriceOffer) (currency : Currency) (stock : Option Slots) :
    Option Recipe :=
  match currency.cost? o.price with
  | none => none
  | some (first, second) =>
    let inStock := match stock with
      | none => false
      | some slots => slots.holds o.item.similar o.item.amount
    (Recipe.make? first second o.item).map (·.flagged !inStock)

/-- The recipe of an offer to buy. It pays one stack of low currency, so no more than that. -/
def PriceOffer.purchaseRecipe? (o : PriceOffer) (currency : Currency) (stock : Option Slots) :
    Option Recipe :=
  if currency.item.maxSize < o.price then none
  else
    let canPay := match stock with
      | none => false
      | some slots => o.price ≤ currency.totalValue slots
    (Recipe.make? o.item none (currency.lowStack o.price)).map (·.flagged !canPay)

def TradeOffer.stockRecipe? (o : TradeOffer) (stock : Option Slots) : Option Recipe :=
  let inStock := match stock with
    | none => false
    | some slots => slots.holds o.result.similar o.result.amount
  o.recipe?.map (·.flagged !inStock)

/-- The first book in stock with a given title that can be copied. -/
def copyableBook? (slots : Slots) (title : String) : Option Book :=
  slots.findSome? fun slot => do
    let s ← slot
    let b ← if s.kind.item = writtenBook then s.kind.data.book else none
    if b.title = some title ∧ b.generation.copy?.isSome then some b else none

def Book.copyStack (b : Book) (generation : Generation) : Stack where
  kind := { item := writtenBook, data := { book := some { b with generation } } }
  amount := 1
  maxSize := 16

def BookOffer.copyRecipe? (o : BookOffer) (currency : Currency) (slots : Slots) :
    Option Recipe := do
  let source ← copyableBook? slots o.title
  let generation ← source.generation.copy?
  let (first, second) ← currency.cost? o.price
  let recipe ← Recipe.make? first second (source.copyStack generation)
  return recipe.flagged !(slots.holds Stack.isWritableBook 1)

/-- The displayed recipes, in the order of the offers. The stock is what the container holds, if
there is one to look into. -/
def Shop.recipes (currency : Currency) (stock : Option Slots) : Shop → List Recipe
  | .admin offers => offers.filterMap TradeOffer.recipe?
  | .selling offers => offers.filterMap (·.saleRecipe? currency stock)
  | .buying offers => offers.filterMap (·.purchaseRecipe? currency stock)
  | .trading offers => offers.filterMap (·.stockRecipe? stock)
  | .book offers =>
    match stock with
    | none => []
    | some slots => offers.filterMap (·.copyRecipe? currency slots)

end Bazaar
