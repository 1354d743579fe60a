import Bazaar.Amount

/-! # Tax on earnings -/

namespace Bazaar

/-- A percentage that is withheld from the earnings of a shop. -/
structure TaxPolicy where
  percent : Amount := 0
  roundUp : Bool := false
  deriving DecidableEq

namespace TaxPolicy

/-- The tax on an amount, rounded to a whole number. -/
def taxOn (p : TaxPolicy) (gross : Amount) : Nat :=
  if p.roundUp then (gross.val * p.percent.val + 99) / 100
  else gross.val * p.percent.val / 100

/-- What remains of an amount after tax; nothing when the tax is larger. -/
def net (p : TaxPolicy) (gross : Amount) : Amount := .ofNat (gross.val - p.taxOn gross)

end TaxPolicy

end Bazaar
