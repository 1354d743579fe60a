import Bazaar.Proofs.Shop.Display
import Bazaar.Proofs.Shop.Staging
import Bazaar.Proofs.Slots.Bounded

/-! # Shops and bounded slots

Staging a trade keeps the slots of the contents bounded, whatever the offered stacks, the prices and
the maximum sizes of the currency are. The results that a shop displays are bounded as far as they
come from offers with bounded stacks; those that the shop makes up itself always are.
-/

namespace Bazaar

open Slots

variable {c : Currency} {settings : Settings} {d : Deal} {shop : Shop} {r : Recipe} {s : Stack}
  {n price : Amount} {pick : Pick} {reason : AbortReason} {slot : Option Stack}
  {slots mid after : Slots} {stock : Option Slots}

/-! ## Money -/

namespace Currency

theorem steady_deposit (c : Currency) (n : Amount) (slots : Slots) :
    slots.Steady (c.deposit n slots).1 := by
  unfold deposit
  split
  · exact steady_add _ slots
  · exact (steady_add _ slots).trans (steady_add _ _)

theorem steady_withdraw? (h : c.withdraw? n slots = some after) : slots.Steady after := by
  rcases withdraw?_eq_some h with hlow | ⟨hi, low, short, high, -, -, hlow, hhigh, hchange⟩
  · have hsteady := steady_remove c.isLow n slots
    rwa [hlow] at hsteady
  · have h₁ := steady_remove c.isLow n slots
    have h₂ := steady_remove c.isHigh (short.ceilDiv hi.value) low
    have h₃ := steady_add (c.lowStack (short.ceilDiv hi.value * hi.value - short)) high
    rw [hlow] at h₁
    rw [hhigh] at h₂
    rw [hchange] at h₃
    exact (h₁.trans h₂).trans h₃

end Currency

/-! ## Staging -/

theorem steady_receive (h : receive s slots = (.ok (), after)) : slots.Steady after := by
  have hsteady := steady_add s slots
  rwa [receive_eq_ok_iff.1 h] at hsteady

theorem steady_give (h : give pick n reason slots = (.ok (), after)) : slots.Steady after := by
  have hsteady := steady_remove pick n slots
  rwa [give_eq_ok_iff.1 h] at hsteady

theorem steady_earn (h : earn settings price slots = (.ok (), after)) : slots.Steady after := by
  have hsteady := settings.currency.steady_deposit (settings.tax.net price) slots
  rwa [earn_eq_ok_iff.1 h] at hsteady

namespace Shop

theorem steady_receive? (h : receive? slot slots = (.ok (), after)) : slots.Steady after := by
  cases slot with
  | none =>
    obtain ⟨-, rfl⟩ := Prod.mk.inj h
    exact .refl slots
  | some s => exact steady_receive h

/-- The shop's side of a trade overfills no slot of the contents, and keeps their number. -/
theorem steady_stage (h : shop.stage settings d slots = .ok after) : slots.Steady after := by
  cases shop with
  | admin offers =>
    obtain rfl := Except.ok.inj h
    exact .refl slots
  | selling offers =>
    obtain ⟨offer, mid, -, hgive, hearn⟩ := stageSale_eq_ok_iff.1 (work_of_stage h)
    exact (steady_give hgive).trans (steady_earn hearn)
  | buying offers =>
    obtain ⟨offer, mid, -, hpay, hreceive⟩ := stagePurchase_eq_ok_iff.1 (work_of_stage h)
    exact (Currency.steady_withdraw? hpay).trans (steady_receive hreceive)
  | trading offers =>
    obtain ⟨-, mid, mid', hgive, hfirst, hsecond⟩ := stageTrade_eq_ok_iff.1 (work_of_stage h)
    exact ((steady_give hgive).trans (steady_receive hfirst)).trans (steady_receive? hsecond)
  | book offers =>
    obtain ⟨offer, mid, -, hgive, hearn⟩ := stageCopy_eq_ok_iff.1 (work_of_stage h)
    exact (steady_give hgive).trans (steady_earn hearn)

end Shop

/-! ## Displayed results -/

/-- What an offer gives fits into a slot, where it is a stack of the offer. -/
def Shop.Bounded : Shop → Prop
  | .admin offers | .trading offers => ∀ o ∈ offers, o.result.Bounded
  | .selling offers => ∀ o ∈ offers, o.item.Bounded
  | .buying _ | .book _ => True

theorem PriceOffer.bounded_of_purchaseRecipe? {o : PriceOffer}
    (h : o.purchaseRecipe? c stock = some r) : r.result.Bounded := by
  obtain ⟨outOfStock, rfl⟩ := purchaseRecipe?_eq_some h
  unfold purchaseRecipe? at h
  split at h
  · cases h
  case isFalse hle =>
    have hprice : ¬c.item.maxSize.val < o.price.val := hle
    simp only [Stack.Bounded, Currency.lowStack, Stack.withAmount]
    omega

theorem TradeOffer.result_of_recipe? {o : TradeOffer} (h : o.recipe? = some r) :
    r.result = o.result := by
  obtain ⟨-, -, rfl⟩ := Recipe.make?_eq_some_iff.1 h
  rfl

theorem Shop.Bounded.of_mem_recipes (h : shop.Bounded) (hr : r ∈ shop.recipes c stock) :
    r.result.Bounded := by
  cases shop with
  | admin offers =>
    obtain ⟨o, hmem, ho⟩ := List.mem_filterMap.1 hr
    rw [TradeOffer.result_of_recipe? ho]
    exact h o hmem
  | selling offers =>
    obtain ⟨o, hmem, ho⟩ := List.mem_filterMap.1 hr
    obtain ⟨_, _, _, -, rfl⟩ := PriceOffer.saleRecipe?_eq_some ho
    exact h o hmem
  | buying offers =>
    obtain ⟨o, -, ho⟩ := List.mem_filterMap.1 hr
    exact PriceOffer.bounded_of_purchaseRecipe? ho
  | trading offers =>
    obtain ⟨o, hmem, ho⟩ := List.mem_filterMap.1 hr
    obtain ⟨r', hr', rfl⟩ := Option.map_eq_some_iff.1 ho
    have hresult := TradeOffer.result_of_recipe? hr'
    simpa only [Recipe.flagged, hresult] using h o hmem
  | book offers =>
    cases stock with
    | none => cases hr
    | some slots =>
      obtain ⟨o, -, ho⟩ := List.mem_filterMap.1 hr
      obtain ⟨_, _, source, generation, _, -, -, -, rfl⟩ := BookOffer.copyRecipe?_eq_some ho
      exact Nat.le_max_right _ _

end Bazaar
