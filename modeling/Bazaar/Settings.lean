import Bazaar.Currency
import Bazaar.Tax

/-! # Trading settings -/

namespace Bazaar

structure Settings where
  comparison : Comparison := .lenient
  /-- Owners may not trade with their own shop. -/
  preventOwnShop : Bool := true
  /-- Nobody may trade with a shop while its owner is present. -/
  preventOwnerOnline : Bool := false
  tax : TaxPolicy := {}
  currency : Currency := .standard
  /-- How long after a gesture a bulk move elsewhere counts as its echo, in milliseconds. -/
  echoWindow : UInt64 := 250
  /-- Attempts that match no recipe are logged. -/
  logEmptyTrades : Bool := false
  deriving DecidableEq

end Bazaar
