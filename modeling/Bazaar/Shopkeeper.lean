import Bazaar.Shop.Display
import Bazaar.Shop.Ownership
import Bazaar.Storage
import Bazaar.Trade

/-! # Shopkeepers

A shopkeeper runs one shop. Its container belongs to the surroundings and may be missing.
-/

namespace Bazaar

/-- A shop with its identity and ownership. -/
structure Shopkeeper where
  profile : Profile
  shop : Shop
  deriving DecidableEq

variable {σ : Type} [Storage σ]

/-- Look into a container. Nothing is seen when it is missing or out of reach. -/
def stockOf (container : Option σ) : Option Slots × Option σ :=
  match container with
  | none => (none, none)
  | some c =>
    match Storage.read c with
    | (.ok slots, c) => (some slots, some c)
    | (.error _, c) => (none, some c)

namespace Shopkeeper

/-- The recipes that the shop offers right now. The container is read once. -/
def recipes (k : Shopkeeper) (currency : Currency) (container : Option σ) :
    List Recipe × Option σ :=
  let (stock, container) := stockOf container
  (k.shop.recipes currency stock, container)

/-- Check a matched trade and stage its effects on the container. The owner rules come first,
then the container is read, then the shop does its part on a copy of the contents. Whatever has
become of the copy when a check fails, the trade gets none of it. -/
def ready (k : Shopkeeper) (settings : Settings) (t : Trade) (container : Option σ) :
    InPlace AbortReason (Trade × Option σ) :=
  match k.shop.precheck k.profile t.actor settings with
  | .error reason => (.error reason, t, container)
  | .ok () =>
    if k.shop.usesContainer then
      match stockOf container with
      | (none, container) => (.error .missingContainer, t, container)
      | (some before, container) =>
        match k.shop.work settings t.deal before with
        | (.error reason, _) => (.error reason, t, container)
        | (.ok (), after) => (.ok (), { t with staged := some { before, after } }, container)
    else
      match k.shop.work settings t.deal [] with
      | (.error reason, _) => (.error reason, t, container)
      | (.ok (), _) => (.ok (), { t with staged := none }, container)

/-- The prepared trade, if no check fails. -/
def prepare (k : Shopkeeper) (settings : Settings) (t : Trade) (container : Option σ) :
    Except AbortReason Trade × Option σ :=
  match k.ready settings t container with
  | (.ok (), t, container) => (.ok t, container)
  | (.error reason, _, container) => (.error reason, container)

theorem prepare_eq (k : Shopkeeper) (settings : Settings) (t : Trade) (container : Option σ) :
    k.prepare settings t container =
      match k.shop.precheck k.profile t.actor settings with
      | .error reason => (.error reason, container)
      | .ok () =>
        if k.shop.usesContainer then
          match stockOf container with
          | (none, container) => (.error .missingContainer, container)
          | (some before, container) =>
            match k.shop.stage settings t.deal before with
            | .error reason => (.error reason, container)
            | .ok after => (.ok { t with staged := some { before, after } }, container)
        else
          match k.shop.stage settings t.deal [] with
          | .error reason => (.error reason, container)
          | .ok _ => (.ok { t with staged := none }, container) := by
  unfold prepare ready Shop.stage
  cases k.shop.precheck k.profile t.actor settings with
  | error reason => rfl
  | ok _ =>
    cases k.shop.usesContainer with
    | true =>
      rcases stockOf container with ⟨_ | before, container⟩
      · rfl
      · simp only [if_true]
        rcases k.shop.work settings t.deal before with ⟨_ | _, after⟩ <;> rfl
    | false =>
      simp only [Bool.false_eq_true, if_false]
      rcases k.shop.work settings t.deal [] with ⟨_ | _, after⟩ <;> rfl

/-- A failed check leaves the trade as it was. -/
theorem ready_of_error {k : Shopkeeper} {settings : Settings} {t t' : Trade}
    {container container' : Option σ} {reason : AbortReason}
    (h : k.ready settings t container = (.error reason, t', container')) : t' = t := by
  unfold ready at h
  split at h
  · cases h
    rfl
  split at h
  · split at h
    · cases h
      rfl
    · split at h
      · cases h
        rfl
      · cases h
  · split at h
    · cases h
      rfl
    · cases h

theorem ready_eq (k : Shopkeeper) (settings : Settings) (t : Trade) (container : Option σ) :
    k.ready settings t container =
      match k.prepare settings t container with
      | (.error reason, container) => (.error reason, t, container)
      | (.ok t, container) => (.ok (), t, container) := by
  unfold prepare
  rcases h : k.ready settings t container with ⟨_ | _, t', container'⟩
  · obtain rfl := ready_of_error h
    rfl
  · rfl

end Shopkeeper

namespace Trade

/-- Replace the contents of a container, if staging changed anything. -/
def writeStaged (t : Trade) (contents : Staged → Slots) (container : Option σ) :
    Except StorageError Unit × Option σ :=
  match t.staged, container with
  | some staged, some c =>
    if staged.isChanged then
      match Storage.write c (contents staged) with
      | (result, c) => (result, some c)
    else (.ok (), some c)
  | _, container => (.ok (), container)

def commitEffects (t : Trade) (container : Option σ) : Except StorageError Unit × Option σ :=
  t.writeStaged Staged.after container

/-- Write back the contents that were there before staging. -/
def rollbackEffects (t : Trade) (container : Option σ) : Except StorageError Unit × Option σ :=
  t.writeStaged Staged.before container

end Trade

end Bazaar
