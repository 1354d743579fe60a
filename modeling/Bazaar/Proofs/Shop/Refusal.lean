import Bazaar.Proofs.Shop.Preparation

/-! # Why trades are refused

Each step of a staged trade fails for one reason only. Everything that is checked before the
listener is asked fails as a precondition of the trade.
-/

namespace Bazaar

open Slots

variable {s : Stack} {n price : Amount} {reason cause : AbortReason} {settings : Settings}
  {d : Deal} {slots : Slots} {actor : Actor} {k : Shopkeeper} {t : Trade}

theorem receive_eq_error_iff :
    (receive s slots).1 = .error reason ↔
      (slots.add s).2 ≠ 0 ∧ reason = .insufficientStorageSpace :=
  InPlace.ite_eq_error_iff

theorem give_eq_error_iff {pick : Pick} :
    (give pick n cause slots).1 = .error reason ↔ (slots.remove pick n).2 ≠ 0 ∧ reason = cause :=
  InPlace.ite_eq_error_iff

theorem earn_eq_error_iff :
    (earn settings price slots).1 = .error reason ↔
      (settings.currency.deposit (settings.tax.net price) slots).2 ≠ 0 ∧
        reason = .insufficientStorageSpace :=
  InPlace.ite_eq_error_iff

theorem payOut_eq_error_iff :
    (payOut settings price slots).1 = .error reason ↔
      settings.currency.withdraw? price slots = none ∧ reason = .insufficientStock := by
  rw [payOut, Currency.withdraw_eq]
  cases settings.currency.withdraw? price slots <;> simp [eq_comm]

/-! ## Preconditions -/

theorem Check.exists_mem_of_firstFailure {checks : List Check}
    (h : firstFailure checks = some reason) : ∃ c ∈ checks, c.reason = reason := by
  obtain ⟨c, hc, rfl⟩ := Option.map_eq_some_iff.1 h
  exact ⟨c, List.mem_of_find?_eq_some hc, rfl⟩

theorem Shop.kind_shortage {shop : Shop} {part : Part} (h : shop.part? d = some part) :
    part.supply.shortage.kind = .preconditionFailed := by
  cases shop with
  | admin offers =>
    cases h
    rfl
  | trading offers =>
    obtain ⟨-, h⟩ := Option.ite_none_right_eq_some.1 h
    cases h
    rfl
  | selling offers | buying offers | book offers =>
    obtain ⟨offer, -, rfl⟩ := Option.map_eq_some_iff.1 h
    rfl

theorem Shop.kind_of_mem_checks {shop : Shop} {c : Check}
    (h : c ∈ shop.checks settings d slots) : c.reason.kind = .preconditionFailed := by
  rcases List.mem_cons.1 h with rfl | h
  · rfl
  cases hpart : shop.part? d with
  | none => simp [hpart] at h
  | some part =>
    rw [hpart] at h
    rcases List.mem_cons.1 h with rfl | h
    · exact kind_shortage hpart
    · obtain rfl := List.mem_singleton.1 h
      rfl

theorem Profile.kind_of_mem_ownerChecks {p : Profile} {c : Check}
    (h : c ∈ p.ownerChecks actor settings) : c.reason.kind = .preconditionFailed := by
  unfold ownerChecks at h
  split at h
  · cases h
  split at h
  · cases h
  · rcases List.mem_cons.1 h with rfl | h
    · rfl
    · obtain rfl := List.mem_singleton.1 h
      rfl

theorem Shopkeeper.kind_of_mem_checks {c : Check} {seen : Option Slots}
    (h : c ∈ k.checks settings t seen) : c.reason.kind = .preconditionFailed := by
  rcases List.mem_append.1 h with h | h
  · unfold ownerChecks at h
    split at h
    · exact Profile.kind_of_mem_ownerChecks h
    · cases h
  · rcases List.mem_cons.1 h with rfl | h
    · rfl
    · exact Shop.kind_of_mem_checks h

theorem Shopkeeper.prepare_error {σ : Type} [Storage σ] {container container' : Option σ}
    (h : k.prepare settings t container = (.error reason, container')) :
    reason.kind = .preconditionFailed := by
  rw [prepare_eq_gate] at h
  have hfirst := Check.gate_eq_error_iff.1 (Prod.mk.inj h).1
  obtain ⟨c, hc, rfl⟩ := Check.exists_mem_of_firstFailure hfirst
  exact kind_of_mem_checks hc

end Bazaar
