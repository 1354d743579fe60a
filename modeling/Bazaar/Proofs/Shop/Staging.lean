import Bazaar.Proofs.Currency.Worth
import Bazaar.Shop.Staging

/-! # What staging does to the contents

Each step of a staged trade succeeds exactly when its insertion or removal is complete. The totals
of the contents then change by what the shop gives and what it receives.
-/

namespace Bazaar

open Slots

variable {q : Pick} {s : Stack} {n price : Amount} {reason : AbortReason} {settings : Settings}
  {d : Deal} {slots after : Slots}

theorem receive_eq_ok_iff : receive s slots = (.ok (), after) ↔ slots.add s = (after, 0) := by
  refine Iff.trans ?_ Prod.ext_iff.symm
  exact InPlace.ite_eq_ok_iff

theorem give_eq_ok_iff {pick : Pick} :
    give pick n reason slots = (.ok (), after) ↔ slots.remove pick n = (after, 0) := by
  refine Iff.trans ?_ Prod.ext_iff.symm
  exact InPlace.ite_eq_ok_iff

theorem earn_eq_ok_iff :
    earn settings price slots = (.ok (), after) ↔
      settings.currency.deposit (settings.tax.net price) slots = (after, 0) := by
  refine Iff.trans ?_ Prod.ext_iff.symm
  exact InPlace.ite_eq_ok_iff

theorem payOut_eq_ok_iff :
    payOut settings price slots = (.ok (), after) ↔
      settings.currency.withdraw? price slots = some after := by
  rw [payOut, Currency.withdraw_eq]
  cases settings.currency.withdraw? price slots <;> simp

theorem total_receive (hq : KindOnly q) (h : receive s slots = (.ok (), after)) :
    total q after = total q slots + portion q (some s) := by
  simpa [receive_eq_ok_iff.1 h] using total_add hq s slots

theorem total_give (hq : KindOnly q) {pick : Pick} (hp : ∀ t, pick t = true → t.similar s = true)
    (h : give pick n reason slots = (.ok (), after)) :
    total q after + (if q s then n.val else 0) = total q slots := by
  simpa [give_eq_ok_iff.1 h] using total_remove hq hp n slots

theorem total_give_of_disjoint (hq : KindOnly q) {pick : Pick}
    (hp : ∀ t, pick t = true → q t = false) (h : give pick n reason slots = (.ok (), after)) :
    total q after = total q slots := by
  simpa [give_eq_ok_iff.1 h] using total_remove_of_disjoint hq.amountFree hp n slots

theorem similar_comm (s t : Stack) : s.similar t = t.similar s := by
  simp [Stack.similar, eq_comm]

theorem total_give_similar (hq : KindOnly q)
    (h : give s.similar s.amount reason slots = (.ok (), after)) :
    total q after + portion q (some s) = total q slots :=
  total_give hq (fun t ht => similar_comm s t ▸ ht) h

theorem total_earn (hq : KindOnly q) (hm : ∀ s, settings.currency.isMoney s = true → q s = false)
    (h : earn settings price slots = (.ok (), after)) : total q after = total q slots := by
  simpa [earn_eq_ok_iff.1 h] using
    Currency.total_deposit hq hm (settings.tax.net price) slots (c := settings.currency)

theorem worth_earn (hd : settings.currency.Distinct)
    (h : earn settings price slots = (.ok (), after)) :
    settings.currency.worth after =
      settings.currency.worth slots + (settings.tax.net price).val := by
  simpa [earn_eq_ok_iff.1 h] using
    Currency.worth_deposit hd (settings.tax.net price) slots (c := settings.currency)

theorem worth_give {pick : Pick} (hp : ∀ t, pick t = true → settings.currency.isMoney t = false)
    (h : give pick n reason slots = (.ok (), after)) :
    settings.currency.worth after = settings.currency.worth slots := by
  have hp' : ∀ t, pick t = true →
      settings.currency.isLow t = false ∧ settings.currency.isHigh t = false :=
    fun t ht => by simpa [Currency.isMoney] using hp t ht
  unfold Currency.worth
  rw [total_give_of_disjoint (Currency.kindOnly_isLow _) (fun t ht => (hp' t ht).1) h,
    total_give_of_disjoint (Currency.kindOnly_isHigh _) (fun t ht => (hp' t ht).2) h]

theorem worth_receive (hm : settings.currency.isMoney s = false)
    (h : receive s slots = (.ok (), after)) :
    settings.currency.worth after = settings.currency.worth slots := by
  obtain ⟨hl, hh⟩ : settings.currency.isLow s = false ∧ settings.currency.isHigh s = false := by
    simpa [Currency.isMoney] using hm
  unfold Currency.worth
  rw [total_receive (Currency.kindOnly_isLow _) h, total_receive (Currency.kindOnly_isHigh _) h]
  simp [hl, hh]

namespace Shop

theorem work_of_stage {shop : Shop} (h : shop.stage settings d slots = .ok after) :
    shop.work settings d slots = (.ok (), after) :=
  InPlace.toExcept_eq_ok_iff.1 h

theorem stageSale_eq_ok_iff {offers : List PriceOffer} :
    stageSale settings offers d slots = (.ok (), after) ↔
      ∃ offer mid, PriceOffer.find? offers d.recipe.result = some offer ∧
        give d.recipe.result.similar d.recipe.result.amount .insufficientStock slots =
          (.ok (), mid) ∧
        earn settings offer.price mid = (.ok (), after) := by
  unfold stageSale
  cases PriceOffer.find? offers d.recipe.result <;> simp [InPlace.andThen_eq_ok_iff]

theorem stagePurchase_eq_ok_iff {offers : List PriceOffer} :
    stagePurchase settings offers d slots = (.ok (), after) ↔
      ∃ offer mid, PriceOffer.find? offers d.recipe.first = some offer ∧
        settings.currency.withdraw? offer.price slots = some mid ∧
        receive d.received.1 mid = (.ok (), after) := by
  unfold stagePurchase
  cases PriceOffer.find? offers d.recipe.first <;>
    simp [InPlace.andThen_eq_ok_iff, payOut_eq_ok_iff]

theorem stageCopy_eq_ok_iff {offers : List BookOffer} :
    stageCopy settings offers d slots = (.ok (), after) ↔
      ∃ offer mid, (copyTitle? d.recipe.result).bind (BookOffer.find? offers) = some offer ∧
        give Stack.isWritableBook 1 .insufficientWritableBooks slots = (.ok (), mid) ∧
        earn settings offer.price mid = (.ok (), after) := by
  unfold stageCopy
  cases (copyTitle? d.recipe.result).bind (BookOffer.find? offers) <;>
    simp [InPlace.andThen_eq_ok_iff]

def receive? (slot : Option Stack) (slots : Slots) : InPlace AbortReason Slots :=
  match slot with
  | none => (.ok (), slots)
  | some s => receive s slots

theorem stageTrade_eq_ok_iff {offers : List TradeOffer} :
    stageTrade offers d slots = (.ok (), after) ↔
      offers.any (·.offers d.recipe) = true ∧
        ∃ mid mid', give d.recipe.result.similar d.recipe.result.amount .insufficientStock slots =
            (.ok (), mid) ∧
          receive d.received.1 mid = (.ok (), mid') ∧
          receive? d.received.2 mid' = (.ok (), after) := by
  unfold stageTrade
  split
  case isTrue h =>
    cases d.received.2 <;> simp [h, InPlace.andThen_eq_ok_iff, receive?]
  case isFalse h => simp [h]

theorem total_receive? (hq : KindOnly q) {slot : Option Stack}
    (h : receive? slot slots = (.ok (), after)) :
    total q after = total q slots + portion q slot := by
  cases slot with
  | none =>
    obtain ⟨-, rfl⟩ := Prod.mk.inj h
    rfl
  | some s => exact total_receive hq h

theorem total_stageSale (hq : KindOnly q) {offers : List PriceOffer}
    (hm : ∀ s, settings.currency.isMoney s = true → q s = false)
    (h : stageSale settings offers d slots = (.ok (), after)) :
    total q after + portion q (some d.recipe.result) = total q slots := by
  obtain ⟨offer, mid, -, hg, he⟩ := stageSale_eq_ok_iff.1 h
  rw [total_earn hq hm he, total_give_similar hq hg]

theorem total_stagePurchase (hq : KindOnly q) {offers : List PriceOffer}
    (hm : ∀ s, settings.currency.isMoney s = true → q s = false)
    (h : stagePurchase settings offers d slots = (.ok (), after)) :
    total q after = total q slots + portion q (some d.received.1) := by
  obtain ⟨offer, mid, -, hw, hr⟩ := stagePurchase_eq_ok_iff.1 h
  rw [total_receive hq hr, Currency.total_withdraw? hq hm hw]

theorem total_stageTrade (hq : KindOnly q) {offers : List TradeOffer}
    (h : stageTrade offers d slots = (.ok (), after)) :
    total q after + portion q (some d.recipe.result) =
      total q slots + portion q (some d.received.1) + portion q d.received.2 := by
  obtain ⟨-, mid, mid', hg, hr, hr'⟩ := stageTrade_eq_ok_iff.1 h
  have hgive := total_give_similar hq hg
  rw [total_receive? hq hr', total_receive hq hr]
  omega

end Shop

end Bazaar
