import Bazaar.Proofs.Shop.Price
import Bazaar.Proofs.Shop.Refusal
import Bazaar.Proofs.Slots.Count
import Bazaar.Proofs.Slots.Room

/-! # Flagged and refused supplies

A shop that gives things out of its container flags the recipes that the container cannot supply.
Sales and copies are refused for missing supplies exactly when they are flagged, and otherwise for
missing room at most. A trade is also refused as unexpected when its offer has an empty second
stack: the recipe leaves this stack out, and staging looks for an offer that has none.
-/

namespace Bazaar

open Slots

variable {settings : Settings} {d : Deal} {slots : Slots} {c : Currency} {r : Recipe}
  {reason shortage : AbortReason} {pick : Pick} {n : Amount}

/-- Staging a trade agrees with the flag of its recipe: it fails for the missing supply when it is
flagged, and otherwise at most for missing room. -/
structure Recipe.Supplied (r : Recipe) (shortage : AbortReason)
    (staged : Except AbortReason Slots) : Prop where
  expected : staged ≠ .error .unexpectedTrade
  short : staged = .error shortage ↔ r.outOfStock = true
  supplied : r.outOfStock = false →
    (∃ after, staged = .ok after) ∨ staged = .error .insufficientStorageSpace

theorem give_eq_error_iff_holds :
    (give pick n shortage slots).1 = .error reason ↔
      slots.holds pick n = false ∧ reason = shortage := by
  rw [give_eq_error_iff, Ne, remove_snd_eq_zero_iff, ← holds_iff, Bool.not_eq_true]

/-- Whatever a shop gives before it receives anything is supplied as flagged. -/
theorem Recipe.supplied_give_andThen {f : Slots → InPlace AbortReason Slots}
    (hflag : r.outOfStock = !slots.holds pick n) (hroom : shortage ≠ .insufficientStorageSpace)
    (hshort : shortage ≠ .unexpectedTrade)
    (hf : ∀ mid reason, (f mid).1 = .error reason → reason = .insufficientStorageSpace) :
    r.Supplied shortage ((give pick n shortage slots).andThen f).toExcept := by
  have hcases : ∀ reason, ((give pick n shortage slots).andThen f).toExcept = .error reason ↔
      r.outOfStock = true ∧ reason = shortage ∨
        ∃ mid, give pick n shortage slots = (.ok (), mid) ∧ (f mid).1 = .error reason := by
    intro reason
    rw [InPlace.toExcept_eq_error_iff, InPlace.andThen_eq_error_iff, give_eq_error_iff_holds,
      hflag, Bool.not_eq_true']
  refine ⟨?_, ?_, ?_⟩
  · intro h
    rcases (hcases _).1 h with ⟨-, h⟩ | ⟨mid, -, h⟩
    · exact hshort h.symm
    · exact absurd (hf mid _ h) (by simp)
  · rw [hcases]
    constructor
    · rintro (⟨h, -⟩ | ⟨mid, -, h⟩)
      · exact h
      · exact absurd (hf mid _ h) hroom
    · intro h
      exact Or.inl ⟨h, rfl⟩
  · intro h
    cases hstaged : ((give pick n shortage slots).andThen f).toExcept with
    | ok after => exact Or.inl ⟨after, rfl⟩
    | error reason =>
      rcases (hcases _).1 hstaged with ⟨hout, -⟩ | ⟨mid, -, he⟩
      · simp [h] at hout
      · exact Or.inr (congrArg _ (hf mid _ he))

theorem earn_error {price : Amount} (h : (earn settings price slots).1 = .error reason) :
    reason = .insufficientStorageSpace :=
  (earn_eq_error_iff.1 h).2

/-! ## Sales and copies -/

theorem PriceOffer.exists_find?_of_mem {offers : List PriceOffer} {o : PriceOffer}
    (ho : o ∈ offers) : ∃ first, find? offers o.item = some first := by
  apply Option.isSome_iff_exists.1
  exact List.find?_isSome.2 ⟨o, ho, by simp [Stack.similar]⟩

theorem BookOffer.exists_find?_of_mem {offers : List BookOffer} {o : BookOffer}
    (ho : o ∈ offers) : ∃ first, find? offers o.title = some first := by
  apply Option.isSome_iff_exists.1
  exact List.find?_isSome.2 ⟨o, ho, by simp⟩

theorem PriceOffer.outOfStock_of_saleRecipe? {o : PriceOffer}
    (h : o.saleRecipe? c (some slots) = some r) :
    r.result = o.item ∧ r.outOfStock = !slots.holds o.item.similar o.item.amount := by
  unfold saleRecipe? at h
  split at h
  · cases h
  · obtain ⟨x, hx, rfl⟩ := Option.map_eq_some_iff.1 h
    obtain ⟨-, -, rfl⟩ := Recipe.make?_eq_some_iff.1 hx
    exact ⟨rfl, rfl⟩

theorem BookOffer.outOfStock_of_copyRecipe? {o : BookOffer}
    (h : o.copyRecipe? c slots = some r) :
    r.outOfStock = !slots.holds Stack.isWritableBook 1 := by
  unfold copyRecipe? at h
  simp only [Option.bind_eq_bind, Option.bind_eq_some_iff, Option.pure_def, Option.some.injEq] at h
  obtain ⟨_, -, _, -, _, -, _, -, rfl⟩ := h
  rfl

namespace Shop

theorem supplied_stageSale {offers : List PriceOffer} {o : PriceOffer} (ho : o ∈ offers)
    (h : o.saleRecipe? c (some slots) = some d.recipe) :
    d.recipe.Supplied .insufficientStock (stageSale settings offers d slots).toExcept := by
  obtain ⟨hresult, hflag⟩ := PriceOffer.outOfStock_of_saleRecipe? h
  obtain ⟨first, hfirst⟩ := PriceOffer.exists_find?_of_mem ho
  rw [← hresult] at hflag hfirst
  simp only [stageSale, hfirst]
  exact Recipe.supplied_give_andThen hflag (by simp) (by simp) fun _ _ => earn_error

theorem supplied_stageCopy {offers : List BookOffer} {o : BookOffer} (ho : o ∈ offers)
    (h : o.copyRecipe? c slots = some d.recipe) :
    d.recipe.Supplied .insufficientWritableBooks (stageCopy settings offers d slots).toExcept := by
  obtain ⟨first, hfirst⟩ := BookOffer.exists_find?_of_mem ho
  simp only [stageCopy, BookOffer.copyTitle?_of_copyRecipe? h, Option.bind_some, hfirst]
  exact Recipe.supplied_give_andThen (BookOffer.outOfStock_of_copyRecipe? h) (by simp) (by simp)
    fun _ _ => earn_error

/-- The flags of sales and of copies are exact, whatever is offered and however much is in stock. -/
theorem supplied_as_flagged (settings : Settings) (slots : Slots) (d : Deal) :
    (∀ offers : List PriceOffer,
      d.recipe ∈ (selling offers).recipes settings.currency (some slots) →
      d.recipe.Supplied .insufficientStock ((selling offers).stage settings d slots)) ∧
    ∀ offers : List BookOffer,
      d.recipe ∈ (book offers).recipes settings.currency (some slots) →
      d.recipe.Supplied .insufficientWritableBooks ((book offers).stage settings d slots) := by
  constructor
  · intro offers hr
    obtain ⟨o, ho, h⟩ := List.mem_filterMap.1 hr
    exact supplied_stageSale ho h
  · intro offers hr
    obtain ⟨o, ho, h⟩ := List.mem_filterMap.1 hr
    exact supplied_stageCopy ho h

def hoard : Slots :=
  [some (.plain "diamond" 4294967295), some (.plain "diamond" 4294967295), none]

def atlasShelf : Slots := [some (Book.copyStack { title := some "Atlas" } .original), none]

def flaggedAtlasDeal : Deal := { atlasDeal with recipe := atlasDeal.recipe.flagged true }

theorem supplied_as_flagged_hoard :
    hoard.count (ofItem "diamond") = .error .overflow ∧
    diamondDeal.recipe ∈ (selling diamondOffers).recipes Currency.standard (some hoard) ∧
    diamondDeal.recipe.Supplied .insufficientStock
      ((selling diamondOffers).stage {} diamondDeal hoard) ∧
    flaggedAtlasDeal.recipe ∈ (book atlasOffers).recipes Currency.standard (some atlasShelf) ∧
    flaggedAtlasDeal.recipe.Supplied .insufficientWritableBooks
      ((book atlasOffers).stage {} flaggedAtlasDeal atlasShelf) :=
  ⟨by decide, by decide, (supplied_as_flagged {} hoard diamondDeal).1 diamondOffers (by decide),
    by decide, (supplied_as_flagged {} atlasShelf flaggedAtlasDeal).2 atlasOffers (by decide)⟩

end Shop

/-! ## Trades -/

theorem TradeOffer.stockRecipe?_eq_some {o : TradeOffer}
    (h : o.stockRecipe? (some slots) = some r) :
    r = { first := o.first, second := nonEmpty? o.second, result := o.result
          outOfStock := !slots.holds o.result.similar o.result.amount } := by
  obtain ⟨x, hx, rfl⟩ := Option.map_eq_some_iff.1 h
  obtain ⟨-, -, rfl⟩ := Recipe.make?_eq_some_iff.1 hx
  rfl

theorem TradeOffer.offers_iff {o : TradeOffer} :
    o.offers r = true ↔ o.result.similar r.result = true ∧ o.first.similar r.first = true ∧
      o.first.amount = r.first.amount ∧
      (o.second = none ∧ r.second = none ∨ ∃ s t, o.second = some s ∧ r.second = some t ∧
        s.similar t = true ∧ s.amount = t.amount) := by
  unfold TradeOffer.offers
  cases o.second <;> cases r.second <;> simp [and_assoc]

theorem TradeOffer.offers_of_stockRecipe? {o : TradeOffer}
    (h : o.stockRecipe? (some slots) = some r) (hsecond : r.second ≠ none) :
    o.offers r = true := by
  have hr := stockRecipe?_eq_some h
  obtain ⟨s, hs⟩ := Option.ne_none_iff_exists'.1 hsecond
  obtain ⟨ho, -⟩ := nonEmpty?_eq_some_iff.1 (hs.symm.trans (congrArg Recipe.second hr)).symm
  refine offers_iff.2 ⟨?_, ?_, ?_, Or.inr ⟨s, s, ho, hs, by simp [Stack.similar], rfl⟩⟩
  · simp [hr, Stack.similar]
  · simp [hr, Stack.similar]
  · rw [hr]

/-- An offer gives the result of a recipe for its first stack and nothing else. -/
def TradeOffer.OffersAlone (o : TradeOffer) (r : Recipe) : Prop :=
  o.second = none ∧ o.result.similar r.result = true ∧ o.first.similar r.first = true ∧
    o.first.amount = r.first.amount

/-- Some offer has the stacks of a displayed recipe, unless the recipe has left a second stack out
and no offer goes without one. -/
theorem TradeOffer.any_offers_iff {offers : List TradeOffer}
    (hr : r ∈ (Shop.trading offers).recipes c (some slots)) :
    offers.any (·.offers r) = true ↔ r.second ≠ none ∨ ∃ o ∈ offers, o.OffersAlone r := by
  rw [List.any_eq_true]
  by_cases hsecond : r.second = none
  · constructor
    · rintro ⟨o, ho, h⟩
      obtain ⟨hresult, hfirst, hamount, ⟨hnone, -⟩ | ⟨s, t, -, ht, -⟩⟩ := offers_iff.1 h
      · exact Or.inr ⟨o, ho, hnone, hresult, hfirst, hamount⟩
      · cases hsecond.symm.trans ht
    · rintro (hne | ⟨o, ho, hnone, hresult, hfirst, hamount⟩)
      · exact absurd hsecond hne
      · exact ⟨o, ho, offers_iff.2 ⟨hresult, hfirst, hamount, Or.inl ⟨hnone, hsecond⟩⟩⟩
  · obtain ⟨o, ho, h⟩ := List.mem_filterMap.1 hr
    exact iff_of_true ⟨o, ho, offers_of_stockRecipe? h hsecond⟩ (Or.inl hsecond)

theorem TradeOffer.offersAlone_of_stockRecipe? {o : TradeOffer}
    (h : o.stockRecipe? (some slots) = some r) (hnone : o.second = none) : o.OffersAlone r := by
  have hr := stockRecipe?_eq_some h
  refine ⟨hnone, ?_, ?_, ?_⟩
  · simp [hr, Stack.similar]
  · simp [hr, Stack.similar]
  · rw [hr]

namespace Shop

variable {offers : List TradeOffer}

theorem stageTrade_of_offers (h : offers.any (·.offers d.recipe) = true) :
    stageTrade offers d slots =
      (give d.recipe.result.similar d.recipe.result.amount .insufficientStock slots).andThen
        fun mid => (receive d.received.1 mid).andThen (receive? d.received.2) := by
  unfold stageTrade
  rw [if_pos h]
  rfl

theorem supplied_stageTrade {o : TradeOffer} (h : o.stockRecipe? (some slots) = some d.recipe)
    (hoffers : offers.any (·.offers d.recipe) = true) :
    d.recipe.Supplied .insufficientStock (stageTrade offers d slots).toExcept := by
  rw [stageTrade_of_offers hoffers]
  refine Recipe.supplied_give_andThen ?_ (by simp) (by simp) ?_
  · rw [TradeOffer.stockRecipe?_eq_some h]
  · intro mid reason he
    rcases InPlace.andThen_eq_error_iff.1 he with he | ⟨mid', -, he⟩
    · exact (receive_eq_error_iff.1 he).2
    · cases hpaid : d.received.2 with
      | none => simp [hpaid, receive?] at he
      | some s =>
        rw [hpaid] at he
        exact (receive_eq_error_iff.1 he).2

/-- A displayed trade is supplied as flagged, or it is unexpected. The latter happens exactly when
the recipe has left an empty second stack out and no offer of its result and its first stack goes
without a second one, so never where all second stacks that are offered have items. -/
theorem supplied_as_flagged_or_unexpected (settings : Settings) (offers : List TradeOffer)
    (slots : Slots) (d : Deal)
    (hr : d.recipe ∈ (trading offers).recipes settings.currency (some slots)) :
    (d.recipe.Supplied .insufficientStock ((trading offers).stage settings d slots) ↔
      d.recipe.second ≠ none ∨ ∃ o ∈ offers, o.OffersAlone d.recipe) ∧
    ((trading offers).stage settings d slots = .error .unexpectedTrade ↔
      d.recipe.second = none ∧ ∀ o ∈ offers, ¬ o.OffersAlone d.recipe) ∧
    ((∀ o ∈ offers, ∀ s, o.second = some s → s.isEmpty = false) →
      d.recipe.Supplied .insufficientStock ((trading offers).stage settings d slots)) := by
  obtain ⟨o, ho, h⟩ := List.mem_filterMap.1 hr
  have hoffered := TradeOffer.any_offers_iff hr
  have hexpected : (trading offers).stage settings d slots = .error .unexpectedTrade ↔
      ¬ offers.any (·.offers d.recipe) = true := by
    constructor
    · intro hstage hany
      exact (supplied_stageTrade h hany).expected hstage
    · intro hno
      exact congrArg InPlace.toExcept (if_neg hno)
  have hsupplied : d.recipe.Supplied .insufficientStock ((trading offers).stage settings d slots) ↔
      offers.any (·.offers d.recipe) = true := by
    constructor
    · intro hs
      exact Decidable.not_not.1 fun hno => hs.expected (hexpected.2 hno)
    · exact supplied_stageTrade h
  refine ⟨hsupplied.trans hoffered, ?_, fun hsolid => ?_⟩
  · rw [hexpected, hoffered]
    simp
  · rw [hsupplied, hoffered]
    cases hsecond : o.second with
    | none => exact Or.inr ⟨o, ho, TradeOffer.offersAlone_of_stockRecipe? h hsecond⟩
    | some s =>
      left
      rw [TradeOffer.stockRecipe?_eq_some h, hsecond]
      simp [nonEmpty?, hsolid o ho s hsecond]

def swordOffers : List TradeOffer :=
  [{ result := .plain "iron_sword" 1, first := .plain "gold_ingot" 4
     second := some (.plain "coal" 0) }]

def swordDeal : Deal where
  recipe := { first := .plain "gold_ingot" 4, result := .plain "iron_sword" 1 }
  first := .plain "gold_ingot" 9

def swordStock : Slots := [some (.plain "iron_sword" 1), none]

def coalOffers : List TradeOffer :=
  [{ result := .plain "iron_sword" 1, first := .plain "gold_ingot" 4
     second := some (.plain "coal" 2) }]

def coalDeal : Deal where
  recipe :=
    { first := .plain "gold_ingot" 4, second := some (.plain "coal" 2)
      result := .plain "iron_sword" 1 }
  first := .plain "gold_ingot" 9
  second := some (.plain "coal" 2)

theorem supplied_as_flagged_or_unexpected_sword :
    swordDeal.recipe ∈ (trading swordOffers).recipes Currency.standard (some swordStock) ∧
    (trading swordOffers).stage {} swordDeal swordStock = .error .unexpectedTrade ∧
    coalDeal.recipe ∈ (trading coalOffers).recipes Currency.standard (some swordStock) ∧
    (∀ o ∈ coalOffers, ∀ s, o.second = some s → s.isEmpty = false) ∧
    coalDeal.recipe.Supplied .insufficientStock
      ((trading coalOffers).stage {} coalDeal swordStock) := by
  have hsword := supplied_as_flagged_or_unexpected {} swordOffers swordStock swordDeal (by decide)
  have hcoal := supplied_as_flagged_or_unexpected {} coalOffers swordStock coalDeal (by decide)
  have hsolid : ∀ o ∈ coalOffers, ∀ s, o.second = some s → s.isEmpty = false := by
    intro o ho s hs
    obtain rfl := List.mem_singleton.1 ho
    obtain rfl := Option.some.inj hs
    rfl
  refine ⟨by decide, hsword.2.1.2 ⟨rfl, ?_⟩, by decide, hsolid, hcoal.2.2 hsolid⟩
  simp [swordOffers, TradeOffer.OffersAlone]

/-- Not every displayed trade is expected: the sword is in stock and the gold is enough, but the
offer has a second stack and the recipe has none. -/
theorem exists_unexpected_displayed_trade :
    ¬ ∀ (settings : Settings) (offers : List TradeOffer) (slots : Slots) (r : Recipe) (d : Deal)
      (comparison : Comparison), r ∈ (trading offers).recipes settings.currency (some slots) →
      d.recipe = r →
      (r.match? { slot1 := some d.first, slot2 := d.second } comparison).isSome = true →
      (trading offers).stage settings d slots ≠ .error .unexpectedTrade ∧
        ((trading offers).stage settings d slots = .error .insufficientStock ↔
          r.outOfStock = true) := by
  intro h
  have := h {} swordOffers swordStock swordDeal.recipe swordDeal .strict (by decide) rfl (by decide)
  exact this.1 (by decide)

end Shop

end Bazaar
