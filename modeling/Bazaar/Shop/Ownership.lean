import Bazaar.Abort
import Bazaar.Party
import Bazaar.Settings
import Bazaar.Shop

/-! # Owner rules -/

namespace Bazaar

/-- The rules about trades with one's own shop and in the presence of the owner. -/
def Profile.ownerCheck (p : Profile) (actor : Actor) (settings : Settings) :
    Except AbortReason Unit :=
  match p.owner with
  | none => .ok ()
  | some owner =>
    if actor.canBypass then .ok ()
    else if owner.id = actor.id then
      if settings.preventOwnShop then .error .selfTrade else .ok ()
    else if settings.preventOwnerOnline && owner.online then .error .ownerOnline
    else .ok ()

/-- What is checked before the container is looked at: the owner rules, except for admin shops. -/
def Shop.precheck (p : Profile) (actor : Actor) (settings : Settings) :
    Shop → Except AbortReason Unit
  | .admin _ => .ok ()
  | _ => p.ownerCheck actor settings

end Bazaar
