import Bazaar.Proofs.Currency.Change
import Bazaar.Proofs.Shop.Display
import Bazaar.Proofs.Shop.Refusal
import Bazaar.Recipe.Matching

/-! # Flagged and refused purchases

A buying shop flags the recipes that its contents are not worth. A purchase is refused for missing
stock in these cases, and also when there is no room for the change of the high currency that it
breaks. The flag does not look at the room.
-/

namespace Bazaar

open Slots

variable {settings : Settings} {d : Deal} {slots : Slots} {c : Currency}

theorem PriceOffer.find?_of_mem {offers : List PriceOffer} {o : PriceOffer}
    (hp : offers.Pairwise fun a b => a.item.similar b.item = false) (ho : o ∈ offers) :
    find? offers o.item = some o := by
  unfold find?
  induction offers with
  | nil => cases ho
  | cons a offers ih =>
    rw [List.pairwise_cons] at hp
    rcases List.mem_cons.1 ho with rfl | ho
    · exact List.find?_cons_of_pos (by simp [Stack.similar])
    · rw [List.find?_cons_of_neg (by simpa using hp.1 o ho)]
      exact ih hp.2 ho

theorem PriceOffer.outOfStock_iff_of_purchaseRecipe? {o : PriceOffer} {r : Recipe}
    (hd : c.Distinct) (h : o.purchaseRecipe? c (some slots) = some r) :
    r.outOfStock = true ↔ c.worth slots < o.price.val := by
  unfold purchaseRecipe? at h
  split at h
  · cases h
  obtain ⟨x, -, rfl⟩ := Option.map_eq_some_iff.1 h
  have hprice := o.price.le_limit
  simp only [Recipe.flagged, Bool.not_eq_true', decide_eq_false_iff_not, Amount.le_iff,
    Currency.val_totalValue hd]
  omega

namespace Shop

theorem stagePurchase_eq_insufficientStock_iff {offers : List PriceOffer} :
    (stagePurchase settings offers d slots).1 = .error .insufficientStock ↔
      ∃ o, PriceOffer.find? offers d.recipe.first = some o ∧
        settings.currency.withdraw? o.price slots = none := by
  unfold stagePurchase
  cases PriceOffer.find? offers d.recipe.first <;>
    simp [InPlace.andThen_eq_error_iff, payOut_eq_error_iff, receive_eq_error_iff]

/-- A purchase is refused for missing stock exactly when its recipe is flagged or the change does
not fit. So the flag agrees with the refusal exactly when the recipe is flagged or the change
fits. -/
theorem refused_iff_flagged_or_no_room (settings : Settings) (hd : settings.currency.Distinct)
    (offers : List PriceOffer)
    (hp : offers.Pairwise fun a b => a.item.similar b.item = false) (slots : Slots) (r : Recipe)
    (hr : r ∈ (buying offers).recipes settings.currency (some slots)) (d : Deal)
    (hdr : d.recipe = r) :
    (r.outOfStock = true ↔ settings.currency.worth slots < r.result.amount.val) ∧
    ((buying offers).stage settings d slots = .error .insufficientStock ↔
      r.outOfStock = true ∨ ¬ settings.currency.ChangeFits r.result.amount slots) ∧
    (((buying offers).stage settings d slots = .error .insufficientStock ↔ r.outOfStock = true) ↔
      r.outOfStock = true ∨ settings.currency.ChangeFits r.result.amount slots) := by
  obtain ⟨o, ho, hor⟩ := List.mem_filterMap.1 hr
  obtain ⟨_, hrec⟩ := PriceOffer.purchaseRecipe?_eq_some hor
  have hfirst : d.recipe.first = o.item := by rw [hdr, hrec]
  have hprice : r.result.amount = o.price := by rw [hrec]; rfl
  have hflag := PriceOffer.outOfStock_iff_of_purchaseRecipe? hd hor
  have hrefused : (buying offers).stage settings d slots = .error .insufficientStock ↔
      r.outOfStock = true ∨ ¬ settings.currency.ChangeFits r.result.amount slots := by
    refine InPlace.toExcept_eq_error_iff.trans (stagePurchase_eq_insufficientStock_iff.trans ?_)
    rw [hfirst, PriceOffer.find?_of_mem hp ho]
    simp only [Option.some.injEq, exists_eq_left']
    rw [Currency.withdraw?_eq_none_iff hd, hflag, hprice]
  refine ⟨hprice ▸ hflag, hrefused, ?_⟩
  rw [hrefused]
  by_cases hf : r.outOfStock = true <;> simp [hf]

def grainOffers : List PriceOffer := [⟨.plain "bread" 1, 5⟩, ⟨.plain "wheat" 1, 3⟩]

def loafDeal : Deal where
  recipe := { first := .plain "bread" 1, result := .plain "emerald" 5 }
  first := .plain "bread" 1

/-- Two blocks are worth more than a loaf, and there is no free slot for the emeralds of one. -/
def blockStock : Slots := [some (.plain "emerald_block" 2), some (.plain "bread" 1)]

theorem refused_iff_flagged_or_no_room_loaf :
    Currency.standard.Distinct ∧
    (grainOffers.Pairwise fun a b => a.item.similar b.item = false) ∧
    loafDeal.recipe ∈ (buying grainOffers).recipes Currency.standard (some blockStock) ∧
    (loafDeal.recipe.outOfStock = true ↔ Currency.standard.worth blockStock < 5) ∧
    ((buying grainOffers).stage {} loafDeal blockStock = .error .insufficientStock ↔
      loafDeal.recipe.outOfStock = true ∨ ¬ Currency.standard.ChangeFits 5 blockStock) ∧
    (((buying grainOffers).stage {} loafDeal blockStock = .error .insufficientStock ↔
        loafDeal.recipe.outOfStock = true) ↔
      loafDeal.recipe.outOfStock = true ∨ Currency.standard.ChangeFits 5 blockStock) :=
  ⟨Currency.distinct_standard, by decide, by decide,
    refused_iff_flagged_or_no_room {} Currency.distinct_standard grainOffers (by decide) blockStock
      loafDeal.recipe (by decide) loafDeal rfl⟩

/-- Not every purchase that is refused for missing stock was flagged: the blocks cover the price
twice, but four emeralds of change have no room. -/
theorem exists_unflagged_refusal :
    ¬ ∀ (settings : Settings) (offers : List PriceOffer) (slots : Slots) (r : Recipe) (d : Deal)
      (comparison : Comparison), settings.currency.Distinct →
      (offers.Pairwise fun a b => a.item.similar b.item = false) →
      r ∈ (buying offers).recipes settings.currency (some slots) → d.recipe = r →
      (r.match? { slot1 := some d.first, slot2 := d.second } comparison).isSome = true →
      ((buying offers).stage settings d slots = .error .insufficientStock ↔
        r.outOfStock = true) := by
  intro h
  have := h {} grainOffers blockStock loafDeal.recipe loafDeal .strict Currency.distinct_standard
    (by decide) (by decide) rfl (by decide)
  exact absurd (this.1 rfl) (by decide)

end Shop

end Bazaar
