import Bazaar.Proofs.Session.Attempt
import Bazaar.Proofs.Shop.Preparation

/-! # Prepared and refused trades

The first failed check of a trade is the one that is told, and neither a check that fails nor one
that passes leaves anything in the trade. The container is looked into at most once.
-/

namespace Bazaar.Shopkeeper

variable {σ : Type} [Storage σ]

/-- Preparing a trade reports the first check that fails, whatever else fails. A trade that passes
all checks is given its effects on what the container holds, and nothing else of it changes. A
refused trade comes back as it was, whatever the shop has done to its copy of the contents, and is
aborted as it was. The container is looked into once or not at all. -/
theorem prepare_first_failure (k : Shopkeeper) (settings : Settings) (t : Trade)
    (container : Option σ) :
    (∀ reason, (k.prepare settings t container).1 = .error reason ↔
      Check.firstFailure (k.checks settings t (seenIn container)) = some reason) ∧
    (∀ t', (k.prepare settings t container).1 = .ok t' ↔
      Check.firstFailure (k.checks settings t (seenIn container)) = none ∧
        t' = { t with staged := k.staging settings t.deal (seenIn container) }) ∧
    (k.ready settings t container =
      match Check.firstFailure (k.checks settings t (seenIn container)) with
      | none => (.ok (), { t with staged := k.staging settings t.deal (seenIn container) },
          (k.prepare settings t container).2)
      | some reason => (.error reason, t, (k.prepare settings t container).2)) ∧
    (k.prepare settings t container).2 =
      (if k.looks settings t.actor then container.map fun c => (Storage.read c).2
        else container) ∧
    (∀ chest : Option Container, (k.prepare settings t chest).2 =
      chest.map (·.readMore (if k.looks settings t.actor then 1 else 0))) ∧
    ∀ (payout : Payout) (scene : Scene σ) (reason : AbortReason),
      Check.firstFailure (k.checks settings t (seenIn scene.container)) = some reason →
      Session.carryOut k settings t payout scene = (.aborted reason,
        { scene with container := (k.prepare settings t scene.container).2 }.abort t reason) := by
  refine ⟨fun reason => ?_, fun t' => ?_, ?_, ?_, fun chest => ?_, fun payout scene reason h => ?_⟩
  · rw [prepare_eq_gate]
    exact Check.gate_eq_error_iff
  · rw [prepare_eq_gate]
    exact Check.gate_eq_ok_iff
  · rw [ready_eq, prepare_eq_gate]
    unfold Check.gate
    cases Check.firstFailure (k.checks settings t (seenIn container)) with
    | none => rfl
    | some reason => rfl
  · rw [prepare_eq_gate]
  · have hread := (stockOf_eq_seenIn chest).symm.trans (stockOf_eq_visibleIn chest)
    rw [prepare_eq_gate, (Prod.mk.inj hread).2]
    cases k.looks settings t.actor with
    | true => rfl
    | false => cases chest <;> rfl
  · rw [Session.carryOut_eq, prepare_eq_gate, Check.gate_eq_error_iff.2 h]

def ownersStall : Shopkeeper :=
  { Session.diamondStall with
    profile :=
      { id := .ofNat 0, name := "stall", owner := some { id := .ofNat 1, name := "owner" } } }

def ownersTrade (canBypass : Bool) : Trade where
  id := .ofNat 0
  shop := .ofNat 0
  actor := { id := .ofNat 1, name := "owner", canBypass }
  deal :=
    { recipe := { first := .plain "emerald" 3, result := .plain "diamond" 1 }
      first := .plain "emerald" 5 }
  order := .asIs
  index := 1

/-- One failure after the other is out of the way. At last the emeralds have room where the diamond
was. -/
theorem prepare_first_failure_ownersStall :
    (ownersStall.prepare {} (ownersTrade false) (none : Option Container)).1 = .error .selfTrade ∧
    (ownersStall.prepare {} (ownersTrade true) (none : Option Container)).1 =
      .error .missingContainer ∧
    (ownersStall.prepare {} (ownersTrade true) (some (Container.empty 0))).1 =
      .error .insufficientStock ∧
    (ownersStall.prepare {} (ownersTrade true)
        (some { contents := [some (.plain "diamond" 1)] : Container })).1 =
      .ok { ownersTrade true with staged := some {
        before := [some (.plain "diamond" 1)], after := [some (.plain "emerald" 3)] } } :=
  ⟨((prepare_first_failure _ _ _ _).1 _).2 (by decide),
    ((prepare_first_failure _ _ _ _).1 _).2 (by decide),
    ((prepare_first_failure _ _ _ _).1 _).2 (by decide),
    ((prepare_first_failure _ _ _ _).2.1 _).2 (by decide)⟩

end Bazaar.Shopkeeper
