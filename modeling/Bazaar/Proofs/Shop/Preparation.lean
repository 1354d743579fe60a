import Bazaar.Proofs.Shop.Parts
import Bazaar.Shopkeeper

/-! # Preparing a trade

Preparing a trade goes through a list of checks: the owner rules, the container, the offer, the
supply and the room for the intake. The first check that fails is the one that is reported, however
many of the others fail as well. Only a trade that passes all of them gets effects to stage.
-/

namespace Bazaar

variable {σ : Type} [Storage σ]

/-- What a look into a container would show, if there is a container and it can be read. -/
def seenIn (container : Option σ) : Option Slots :=
  container.bind fun c => (Storage.read c).1.toOption

theorem stockOf_eq_seenIn (container : Option σ) :
    stockOf container = (seenIn container, container.map fun c => (Storage.read c).2) := by
  cases container with
  | none => rfl
  | some c =>
    simp only [stockOf, seenIn, Option.bind_some, Option.map_some]
    rcases Storage.read c with ⟨_ | slots, c'⟩
    · rfl
    · rfl

def Profile.ownerChecks (p : Profile) (actor : Actor) (settings : Settings) : List Check :=
  match p.owner with
  | none => []
  | some owner =>
    if actor.canBypass then []
    else [⟨!(settings.preventOwnShop && owner.id = actor.id), .selfTrade⟩,
      ⟨!(settings.preventOwnerOnline && owner.id ≠ actor.id && owner.online), .ownerOnline⟩]

theorem Profile.ownerCheck_eq_gate (p : Profile) (actor : Actor) (settings : Settings) :
    p.ownerCheck actor settings = Check.gate (p.ownerChecks actor settings) () := by
  unfold ownerCheck ownerChecks
  cases p.owner with
  | none => rfl
  | some owner =>
    dsimp only
    split
    · rfl
    · rw [Check.gate_cons, Check.gate_cons, Check.gate_nil]
      by_cases hid : owner.id = actor.id
      · cases settings.preventOwnShop <;> simp [hid]
      · cases settings.preventOwnerOnline <;> cases owner.online <;> simp [hid]

namespace Shopkeeper

/-- The owner rules apply to every shop with a container. -/
def ownerChecks (k : Shopkeeper) (settings : Settings) (actor : Actor) : List Check :=
  if k.shop.usesContainer then k.profile.ownerChecks actor settings else []

/-- Everything that is asked of a trade before it is put before the listener, in order. The checks
of the shop are made on what was seen in the container. -/
def checks (k : Shopkeeper) (settings : Settings) (t : Trade) (seen : Option Slots) : List Check :=
  k.ownerChecks settings t.actor ++ ⟨!k.shop.usesContainer || seen.isSome, .missingContainer⟩ ::
    k.shop.checks settings t.deal (seen.getD [])

/-- The effects of a trade on what was seen in the container. Shops without a container have
none. -/
def staging (k : Shopkeeper) (settings : Settings) (d : Deal) (seen : Option Slots) :
    Option Staged :=
  if k.shop.usesContainer then
    seen.map fun before => { before, after := k.shop.effects settings d before }
  else none

/-- The container is looked into if there is a use for it and the owner rules allow the trade. -/
def looks (k : Shopkeeper) (settings : Settings) (actor : Actor) : Bool :=
  k.shop.usesContainer && (k.ownerChecks settings actor).all (·.passes)

theorem precheck_eq_gate (k : Shopkeeper) (settings : Settings) (actor : Actor) :
    k.shop.precheck k.profile actor settings = Check.gate (k.ownerChecks settings actor) () := by
  unfold ownerChecks
  cases k.shop with
  | admin => rfl
  | selling | buying | trading | book => exact k.profile.ownerCheck_eq_gate actor settings

theorem prepare_eq_gate (k : Shopkeeper) (settings : Settings) (t : Trade) (container : Option σ) :
    k.prepare settings t container =
      (Check.gate (k.checks settings t (seenIn container))
          { t with staged := k.staging settings t.deal (seenIn container) },
        if k.looks settings t.actor then container.map fun c => (Storage.read c).2
        else container) := by
  unfold checks looks staging
  rw [prepare_eq, precheck_eq_gate, Check.gate_append, Check.gate_cons, stockOf_eq_seenIn]
  cases hrules : Check.gate (k.ownerChecks settings t.actor) () with
  | error reason =>
    have hfail : (k.ownerChecks settings t.actor).all (·.passes) = false := by
      rw [← Bool.not_eq_true, ← Check.firstFailure_eq_none_iff,
        Check.gate_eq_error_iff.1 hrules]
      exact Option.some_ne_none reason
    simp [hfail, Except.bind]
  | ok _ =>
    have hpass : (k.ownerChecks settings t.actor).all (·.passes) = true :=
      Check.firstFailure_eq_none_iff.1 (Check.gate_eq_ok_iff.1 hrules).1
    simp only [hpass, Except.bind, Bool.and_true]
    cases hu : k.shop.usesContainer with
    | true =>
      cases seenIn container with
      | none => rfl
      | some before =>
        simp only [Shop.stage_eq_gate, Bool.not_true, Option.isSome_some, Bool.or_true, if_true,
          Option.getD_some, Option.map_some]
        unfold Check.gate
        cases Check.firstFailure (k.shop.checks settings t.deal before) with
        | none => rfl
        | some reason => rfl
    | false =>
      -- Only an admin shop has no use for a container, and nothing can fail there.
      cases hshop : k.shop with
      | admin => rfl
      | selling | buying | trading | book =>
        rw [hshop] at hu
        cases hu

end Shopkeeper

end Bazaar
