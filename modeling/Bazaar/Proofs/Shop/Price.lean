import Bazaar.Proofs.Shop.Display
import Bazaar.Proofs.Shop.Staging
import Bazaar.Recipe.Matching

/-! # Displayed and charged prices

A recipe shows the price of the offer it comes from. Staging looks for an offer again, by the item
or the title alone, and charges the price of the first one it finds. Both agree for every offer
exactly when this first offer has the same price.
-/

namespace Bazaar

open Slots

variable {settings : Settings} {d : Deal} {slots after : Slots} {stock : Option Slots}

theorem PriceOffer.mem_of_find? {offers : List PriceOffer} {s : Stack} {o : PriceOffer}
    (h : find? offers s = some o) : o ∈ offers :=
  List.mem_of_find?_eq_some h

theorem title_of_copyableBook? {title : String} {b : Book}
    (h : copyableBook? slots title = some b) : b.title = some title := by
  obtain ⟨_, -, -, -, ht, -⟩ := copyableBook?_eq_some h
  exact ht

theorem BookOffer.copyTitle?_of_copyRecipe? {o : BookOffer} {c : Currency} {r : Recipe}
    (h : o.copyRecipe? c slots = some r) : Shop.copyTitle? r.result = some o.title := by
  obtain ⟨_, _, source, generation, _, hs, hg, -, rfl⟩ := BookOffer.copyRecipe?_eq_some h
  have hcopy : generation.isCopy = true := by
    cases hsg : source.generation <;> rw [hsg] at hg <;> cases hg <;> rfl
  simp [Shop.copyTitle?, Book.copyStack, hcopy, title_of_copyableBook? hs]

namespace Shop

theorem worth_stageSale {offers : List PriceOffer} (hd : settings.currency.Distinct)
    (hm : settings.currency.isMoney d.recipe.result = false)
    (h : stageSale settings offers d slots = (.ok (), after)) :
    ∃ first, PriceOffer.find? offers d.recipe.result = some first ∧
      settings.currency.worth after =
        settings.currency.worth slots + (settings.tax.net first.price).val := by
  obtain ⟨first, mid, hf, hg, he⟩ := stageSale_eq_ok_iff.1 h
  refine ⟨first, hf, ?_⟩
  rw [worth_earn hd he, worth_give (fun t ht => ?_) hg]
  have hk : t.kind = d.recipe.result.kind := by simpa [Stack.similar, eq_comm] using ht
  rwa [Currency.isMoney_eq_false_iff, hk, ← Currency.isMoney_eq_false_iff]

theorem worth_stageCopy {offers : List BookOffer} (hd : settings.currency.Distinct)
    (hm : ∀ s : Stack, s.isWritableBook = true → settings.currency.isMoney s = false)
    (h : stageCopy settings offers d slots = (.ok (), after)) :
    ∃ first, (copyTitle? d.recipe.result).bind (BookOffer.find? offers) = some first ∧
      settings.currency.worth after =
        settings.currency.worth slots + (settings.tax.net first.price).val := by
  obtain ⟨first, mid, hf, hg, he⟩ := stageCopy_eq_ok_iff.1 h
  exact ⟨first, hf, by rw [worth_earn hd he, worth_give hm hg]⟩

theorem worth_stagePurchase {offers : List PriceOffer} (hd : settings.currency.Distinct)
    (hn : ∀ o ∈ offers, o.price.val + settings.currency.highValue ≤ 4294967295)
    (hm : settings.currency.isMoney d.first = false)
    (h : stagePurchase settings offers d slots = (.ok (), after)) :
    ∃ first, PriceOffer.find? offers d.recipe.first = some first ∧
      settings.currency.worth after + first.price.val = settings.currency.worth slots := by
  obtain ⟨first, mid, hf, hw, hr⟩ := stagePurchase_eq_ok_iff.1 h
  refine ⟨first, hf, ?_⟩
  rw [worth_receive (s := d.received.1) hm hr]
  exact Currency.worth_withdraw? hd hw (hn first (PriceOffer.mem_of_find? hf))

/-- A sale is worth the displayed price to the shop exactly when the first offer of the same kind,
or of the same title, has the same net price. -/
theorem earns_displayed_price_iff (settings : Settings) (hd : settings.currency.Distinct) :
    (∀ (offers : List PriceOffer) (o : PriceOffer) (stock : Option Slots) (d : Deal)
        (slots after : Slots),
      o.saleRecipe? settings.currency stock = some d.recipe →
      settings.currency.isMoney o.item = false →
      (selling offers).stage settings d slots = .ok after →
      ∃ first, PriceOffer.find? offers o.item = some first ∧
        settings.currency.worth after =
          settings.currency.worth slots + (settings.tax.net first.price).val ∧
        (settings.currency.worth after =
            settings.currency.worth slots + (settings.tax.net o.price).val ↔
          settings.tax.net first.price = settings.tax.net o.price)) ∧
    ∀ (offers : List BookOffer) (o : BookOffer) (stock : Slots) (d : Deal)
        (slots after : Slots),
      o.copyRecipe? settings.currency stock = some d.recipe →
      (∀ s : Stack, s.isWritableBook = true → settings.currency.isMoney s = false) →
      (book offers).stage settings d slots = .ok after →
      ∃ first, BookOffer.find? offers o.title = some first ∧
        settings.currency.worth after =
          settings.currency.worth slots + (settings.tax.net first.price).val ∧
        (settings.currency.worth after =
            settings.currency.worth slots + (settings.tax.net o.price).val ↔
          settings.tax.net first.price = settings.tax.net o.price) := by
  have hiff : ∀ {w w' : Nat} {a b : Amount}, w' = w + a.val → (w' = w + b.val ↔ a = b) := by
    intro w w' a b hw
    rw [hw, Amount.ext_iff]
    omega
  constructor
  · intro offers o stock d slots after hr hm h
    obtain ⟨_, _, _, -, hrec⟩ := PriceOffer.saleRecipe?_eq_some hr
    have hres : d.recipe.result = o.item := by rw [hrec]
    obtain ⟨first, hf, hw⟩ := worth_stageSale hd (hres ▸ hm) (work_of_stage h)
    exact ⟨first, hres ▸ hf, hw, hiff hw⟩
  · intro offers o stock d slots after hr hm h
    obtain ⟨first, hf, hw⟩ := worth_stageCopy hd hm (work_of_stage h)
    rw [BookOffer.copyTitle?_of_copyRecipe? hr, Option.bind_some] at hf
    exact ⟨first, hf, hw, hiff hw⟩

def diamondOffers : List PriceOffer := [⟨.plain "diamond" 1, 5⟩, ⟨.plain "diamond" 2, 9⟩]

def diamondDeal : Deal where
  recipe := { first := .plain "emerald" 9, result := .plain "diamond" 2 }
  first := .plain "emerald" 9

def atlasOffers : List BookOffer := [⟨"Atlas", 6⟩, ⟨"Atlas", 30⟩]

def atlasStock : Slots :=
  [some (Book.copyStack { title := some "Atlas" } .original), some (.plain writableBook 1), none]

def atlasDeal : Deal where
  recipe :=
    { first := .plain "emerald_block" 3, second := some (.plain "emerald" 3)
      result := Book.copyStack { title := some "Atlas" } .copyOfOriginal }
  first := .plain "emerald_block" 3
  second := some (.plain "emerald" 3)

theorem isMoney_standard_of_isWritableBook (s : Stack) (h : s.isWritableBook = true) :
    Currency.standard.isMoney s = false := by
  have hi : s.kind.item = writableBook := by simpa [Stack.isWritableBook] using h
  rw [Currency.isMoney_eq_false_iff]
  intro hk
  have := List.mem_map_of_mem (f := Kind.item) hk
  rw [hi] at this
  exact absurd this (by decide)

theorem earns_displayed_price_iff_second_offers :
    Currency.standard.Distinct ∧
    (∃ first, PriceOffer.find? diamondOffers (.plain "diamond" 2) = some first ∧
      Currency.standard.worth [some (.plain "diamond" 2), some (.plain "emerald" 5)] =
        Currency.standard.worth [some (.plain "diamond" 4), none] +
          (({} : Settings).tax.net first.price).val ∧
      (Currency.standard.worth [some (.plain "diamond" 2), some (.plain "emerald" 5)] =
          Currency.standard.worth [some (.plain "diamond" 4), none] +
            (({} : Settings).tax.net 9).val ↔
        ({} : Settings).tax.net first.price = ({} : Settings).tax.net 9)) ∧
    ∃ first, BookOffer.find? atlasOffers "Atlas" = some first ∧
      Currency.standard.worth (atlasStock.set 1 (some (.plain "emerald" 6))) =
        Currency.standard.worth atlasStock + (({} : Settings).tax.net first.price).val ∧
      (Currency.standard.worth (atlasStock.set 1 (some (.plain "emerald" 6))) =
          Currency.standard.worth atlasStock + (({} : Settings).tax.net 30).val ↔
        ({} : Settings).tax.net first.price = ({} : Settings).tax.net 30) :=
  ⟨Currency.distinct_standard,
    (earns_displayed_price_iff {} Currency.distinct_standard).1 diamondOffers
      ⟨.plain "diamond" 2, 9⟩ (some [some (.plain "diamond" 4), none]) diamondDeal
      [some (.plain "diamond" 4), none] [some (.plain "diamond" 2), some (.plain "emerald" 5)]
      (by decide) (by decide) rfl,
    (earns_displayed_price_iff {} Currency.distinct_standard).2 atlasOffers ⟨"Atlas", 30⟩
      atlasStock atlasDeal atlasStock (atlasStock.set 1 (some (.plain "emerald" 6))) (by decide)
      isMoney_standard_of_isWritableBook rfl⟩

/-- Not every sale earns the displayed price: two diamonds are sold for the price of one. -/
theorem exists_sale_below_displayed_price :
    ¬ ∀ (settings : Settings) (offers : List PriceOffer) (o : PriceOffer) (stock : Option Slots)
      (d : Deal) (slots after : Slots), settings.currency.Distinct → o ∈ offers →
      o.saleRecipe? settings.currency stock = some d.recipe →
      settings.currency.isMoney o.item = false →
      (selling offers).stage settings d slots = .ok after →
      settings.currency.worth after =
        settings.currency.worth slots + (settings.tax.net o.price).val := by
  intro h
  have := h {} diamondOffers ⟨.plain "diamond" 2, 9⟩ (some [some (.plain "diamond" 4), none])
    diamondDeal [some (.plain "diamond" 4), none]
    [some (.plain "diamond" 2), some (.plain "emerald" 5)] Currency.distinct_standard (by decide)
    (by decide) (by decide) rfl
  exact absurd this (by decide)

/-- A purchase moves the paid stack into the contents and keeps all other things. It costs the
displayed price exactly when the first offer of the same kind has the same price. -/
theorem pays_displayed_price_iff (settings : Settings) (hd : settings.currency.Distinct)
    (offers : List PriceOffer)
    (hn : ∀ o ∈ offers, o.price.val + settings.currency.highValue ≤ 4294967295)
    (o : PriceOffer) (stock : Option Slots) (d : Deal) (slots after : Slots)
    (hr : o.purchaseRecipe? settings.currency stock = some d.recipe)
    (hm : settings.currency.isMoney d.first = false)
    (h : (buying offers).stage settings d slots = .ok after) :
    (∃ first, PriceOffer.find? offers o.item = some first ∧
      settings.currency.worth after + first.price.val = settings.currency.worth slots ∧
      (settings.currency.worth after + d.recipe.result.amount.val = settings.currency.worth slots ↔
        first.price = o.price)) ∧
    total (ofKind d.first.kind) after =
      total (ofKind d.first.kind) slots + d.recipe.first.amount.val ∧
    ∀ κ, κ ≠ d.first.kind → κ ∉ settings.currency.kinds →
      total (ofKind κ) after = total (ofKind κ) slots := by
  obtain ⟨_, hrec⟩ := PriceOffer.purchaseRecipe?_eq_some hr
  have htotal : ∀ κ, κ ∉ settings.currency.kinds →
      total (ofKind κ) after =
        total (ofKind κ) slots + if d.first.kind = κ then d.recipe.first.amount.val else 0 := by
    intro κ hκ
    rw [total_stagePurchase (kindOnly_ofKind κ) (Currency.ofKind_of_isMoney hκ) (work_of_stage h),
      portion_ofKind]
    rfl
  refine ⟨?_, ?_, ?_⟩
  · obtain ⟨first, hf, hw⟩ := worth_stagePurchase hd hn hm (work_of_stage h)
    have hfirst : d.recipe.first = o.item := by rw [hrec]
    have hresult : d.recipe.result.amount = o.price := by rw [hrec]; rfl
    refine ⟨first, hfirst ▸ hf, hw, ?_⟩
    rw [hresult, ← hw, Amount.ext_iff]
    omega
  · simpa using htotal _ (Currency.isMoney_eq_false_iff.1 hm)
  · intro κ hne hκ
    simpa [hne.symm] using htotal κ hκ

def breadOffers : List PriceOffer := [⟨.plain "bread" 1, 2⟩, ⟨.plain "bread" 4, 10⟩]

def breadDeal : Deal where
  recipe := { first := .plain "bread" 4, result := .plain "emerald" 10 }
  first := .plain "bread" 7

theorem pays_displayed_price_iff_second_offer :
    Currency.standard.Distinct ∧
    (∃ first, PriceOffer.find? breadOffers (.plain "bread" 4) = some first ∧
      Currency.standard.worth [some (.plain "emerald" 18), some (.plain "bread" 4)] +
        first.price.val = Currency.standard.worth [some (.plain "emerald" 20), none] ∧
      (Currency.standard.worth [some (.plain "emerald" 18), some (.plain "bread" 4)] + 10 =
        Currency.standard.worth [some (.plain "emerald" 20), none] ↔ first.price = 10)) ∧
    total (ofKind ⟨"bread", {}⟩) [some (.plain "emerald" 18), some (.plain "bread" 4)] =
      total (ofKind ⟨"bread", {}⟩) [some (.plain "emerald" 20), none] + 4 ∧
    ∀ κ, κ ≠ ⟨"bread", {}⟩ → κ ∉ Currency.standard.kinds →
      total (ofKind κ) [some (.plain "emerald" 18), some (.plain "bread" 4)] =
        total (ofKind κ) [some (.plain "emerald" 20), none] :=
  ⟨Currency.distinct_standard,
    pays_displayed_price_iff {} Currency.distinct_standard breadOffers (by decide)
      ⟨.plain "bread" 4, 10⟩ (some [some (.plain "emerald" 20), none]) breadDeal
      [some (.plain "emerald" 20), none] _ (by decide) (by decide) rfl⟩

/-- Not every purchase costs the displayed price: four loaves are bought for the price of one, and
the rest of what the actor gets comes from nowhere. -/
theorem exists_purchase_below_displayed_price :
    ¬ ∀ (settings : Settings) (offers : List PriceOffer) (o : PriceOffer) (stock : Option Slots)
      (d : Deal) (comparison : Comparison) (slots after : Slots), settings.currency.Distinct →
      (∀ o ∈ offers, o.price.val + settings.currency.highValue ≤ 4294967295) → o ∈ offers →
      o.purchaseRecipe? settings.currency stock = some d.recipe →
      settings.currency.isMoney d.recipe.first = false →
      (d.recipe.match? { slot1 := some d.first, slot2 := d.second } comparison).isSome = true →
      settings.currency.isMoney d.first = false →
      (buying offers).stage settings d slots = .ok after →
      settings.currency.worth after + d.recipe.result.amount.val = settings.currency.worth slots ∧
        total (ofKind d.first.kind) after =
          total (ofKind d.first.kind) slots + d.recipe.first.amount.val ∧
        ∀ κ, κ ≠ d.first.kind → κ ∉ settings.currency.kinds →
          total (ofKind κ) after = total (ofKind κ) slots := by
  intro h
  have := h {} breadOffers ⟨.plain "bread" 4, 10⟩ (some [some (.plain "emerald" 20), none])
    breadDeal .strict [some (.plain "emerald" 20), none]
    [some (.plain "emerald" 18), some (.plain "bread" 4)] Currency.distinct_standard (by decide)
    (by decide) (by decide) (by decide) (by decide) (by decide) rfl
  exact absurd this.1 (by decide)

end Shop

end Bazaar
