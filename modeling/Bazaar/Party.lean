import Bazaar.Id

/-! # Trading parties -/

namespace Bazaar

/-- Somebody who trades with a shop. -/
structure Actor where
  id : ActorId
  name : String
  /-- The owner rules do not apply to this actor. -/
  canBypass : Bool := false
  deriving DecidableEq

/-- The owner of a shop, and whether the owner is present. -/
structure Owner where
  id : ActorId
  name : String
  online : Bool := false
  deriving DecidableEq

structure Profile where
  id : ShopId
  name : String
  owner : Option Owner := none
  deriving DecidableEq

end Bazaar
