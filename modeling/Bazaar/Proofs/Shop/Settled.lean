import Bazaar.Proofs.Currency.Settled
import Bazaar.Proofs.Shop.Books

/-! # Empty stacks in a container

A shop does its part of a trade the same on contents with empty stacks and on the settled contents.
It displays the same recipes too, unless it copies books: the search for a book to copy finds an
empty stack of it.
-/

namespace Bazaar

open Slots

variable {c : Currency} {n price : Amount} {s : Stack} {pick : Pick} {reason : AbortReason}
  {settings : Settings} {d : Deal} {slots : Slots} {title : String} {offers : List BookOffer}

/-! ## Staging -/

theorem receive_settled (s : Stack) (slots : Slots) :
    receive s slots.settled = (receive s slots).map settled := by
  unfold receive
  rw [add_settled]
  rfl

theorem give_settled (pick : Pick) (n : Amount) (reason : AbortReason) (slots : Slots) :
    give pick n reason slots.settled = (give pick n reason slots).map settled := by
  unfold give
  rw [remove_settled]
  rfl

theorem earn_settled (settings : Settings) (price : Amount) (slots : Slots) :
    earn settings price slots.settled = (earn settings price slots).map settled := by
  unfold earn
  rw [settings.currency.deposit_settled]
  rfl

theorem payOut_settled (settings : Settings) (price : Amount) (slots : Slots) :
    payOut settings price slots.settled = (payOut settings price slots).map settled := by
  unfold payOut
  rw [settings.currency.withdraw_settled]
  rfl

namespace Shop

theorem stageSale_settled (settings : Settings) (offers : List PriceOffer) (d : Deal)
    (slots : Slots) :
    stageSale settings offers d slots.settled =
      (stageSale settings offers d slots).map settled := by
  unfold stageSale
  split
  · rfl
  · rw [give_settled]
    exact InPlace.map_andThen _ (earn_settled settings _)

theorem stagePurchase_settled (settings : Settings) (offers : List PriceOffer) (d : Deal)
    (slots : Slots) :
    stagePurchase settings offers d slots.settled =
      (stagePurchase settings offers d slots).map settled := by
  unfold stagePurchase
  split
  · rfl
  · rw [payOut_settled]
    exact InPlace.map_andThen _ (receive_settled _)

theorem stageTrade_settled (offers : List TradeOffer) (d : Deal) (slots : Slots) :
    stageTrade offers d slots.settled = (stageTrade offers d slots).map settled := by
  unfold stageTrade
  split
  case isTrue =>
    rw [give_settled]
    refine InPlace.map_andThen _ fun mid => ?_
    rw [receive_settled]
    refine InPlace.map_andThen _ fun mid' => ?_
    cases d.received.2 with
    | none => rfl
    | some second => exact receive_settled second mid'
  case isFalse => rfl

theorem stageCopy_settled (settings : Settings) (offers : List BookOffer) (d : Deal)
    (slots : Slots) :
    stageCopy settings offers d slots.settled =
      (stageCopy settings offers d slots).map settled := by
  unfold stageCopy
  split
  · rfl
  · rw [give_settled]
    exact InPlace.map_andThen _ (earn_settled settings _)

theorem work_settled (settings : Settings) (d : Deal) (slots : Slots) (shop : Shop) :
    shop.work settings d slots.settled = (shop.work settings d slots).map settled := by
  cases shop with
  | admin offers => rfl
  | selling offers => exact stageSale_settled settings offers d slots
  | buying offers => exact stagePurchase_settled settings offers d slots
  | trading offers => exact stageTrade_settled offers d slots
  | book offers => exact stageCopy_settled settings offers d slots

theorem stage_settled (settings : Settings) (d : Deal) (slots : Slots) (shop : Shop) :
    shop.stage settings d slots.settled = (shop.stage settings d slots).map settled := by
  unfold stage
  rw [work_settled, InPlace.toExcept_map]

end Shop

/-! ## Recipes -/

theorem PriceOffer.saleRecipe?_settled (o : PriceOffer) (c : Currency) (slots : Slots) :
    o.saleRecipe? c (some slots.settled) = o.saleRecipe? c (some slots) := by
  simp only [saleRecipe?, holds_settled]

theorem PriceOffer.purchaseRecipe?_settled (o : PriceOffer) (c : Currency) (slots : Slots) :
    o.purchaseRecipe? c (some slots.settled) = o.purchaseRecipe? c (some slots) := by
  simp only [purchaseRecipe?, Currency.totalValue_settled]

theorem TradeOffer.stockRecipe?_settled (o : TradeOffer) (slots : Slots) :
    o.stockRecipe? (some slots.settled) = o.stockRecipe? (some slots) := by
  simp only [stockRecipe?, holds_settled]

theorem copyableBook?_settled_of_none (h : copyableBook? slots title = none) :
    copyableBook? slots.settled title = none := by
  unfold copyableBook? at h ⊢
  rw [List.findSome?_eq_none_iff] at h ⊢
  intro slot hslot
  obtain ⟨slot, hmem, rfl⟩ := List.mem_map.1 hslot
  cases slot with
  | none => rfl
  | some s =>
    cases hs : s.isEmpty with
    | true => rw [nonEmpty?_of_isEmpty hs]; rfl
    | false => rw [nonEmpty?_of_not_isEmpty hs]; exact h _ hmem

theorem copyableBook?_settled (h : slots.Solid (ofItem writtenBook)) (title : String) :
    copyableBook? slots.settled title = copyableBook? slots title := by
  induction slots with
  | nil => rfl
  | cons slot r ih =>
    have ih := ih h.of_cons
    unfold copyableBook? at ih ⊢
    rw [settled_cons, List.findSome?_cons, List.findSome?_cons, ih]
    cases slot with
    | none => rfl
    | some s =>
      cases hs : s.isEmpty with
      | false => rw [nonEmpty?_of_not_isEmpty hs]
      | true =>
        have hitem : s.kind.item ≠ writtenBook := by
          intro hitem
          have := h s List.mem_cons_self (by simpa [ofItem] using hitem)
          simp [hs] at this
        rw [nonEmpty?_of_isEmpty hs]
        simp [hitem]

namespace BookOffer

variable {o : BookOffer} {source : Book}

theorem exists_copyRecipe? (hc : c.cost? o.price ≠ none)
    (h : copyableBook? slots o.title = some source) :
    ∃ r generation, o.copyRecipe? c slots = some r ∧ source.generation.copy? = some generation ∧
      r.result = source.copyStack generation := by
  obtain ⟨s, -, -, -, -, hcopy⟩ := copyableBook?_eq_some h
  obtain ⟨generation, hg⟩ := Option.isSome_iff_exists.1 hcopy
  obtain ⟨⟨first, second⟩, hcost⟩ := Option.ne_none_iff_exists'.1 hc
  have hmake : Recipe.make? first second (source.copyStack generation) =
      some { first, second := nonEmpty? second, result := source.copyStack generation } :=
    Recipe.make?_eq_some_iff.2 ⟨Currency.isEmpty_of_cost? hcost, rfl, rfl⟩
  refine ⟨Recipe.flagged
    { first, second := nonEmpty? second, result := source.copyStack generation }
    !(slots.holds Stack.isWritableBook 1), generation, ?_, hg, rfl⟩
  simp only [copyRecipe?, h, hg, hcost, hmake, Option.bind_eq_bind, Option.bind_some]
  rfl

theorem copyRecipe?_settled (h : c.cost? o.price ≠ none →
      copyableBook? slots.settled o.title = copyableBook? slots o.title) :
    o.copyRecipe? c slots.settled = o.copyRecipe? c slots := by
  by_cases hc : c.cost? o.price = none
  · simp [copyRecipe?, hc]
  · simp only [copyRecipe?, h hc, holds_settled]

end BookOffer

theorem Book.eq_of_copyStack_eq {b b' : Book} {g g' : Generation} (hg : b.generation.copy? = some g)
    (hg' : b'.generation.copy? = some g') (h : b.copyStack g = b'.copyStack g') : b = b' := by
  obtain ⟨title, author, generation⟩ := b
  obtain ⟨title', author', generation'⟩ := b'
  simp only [copyStack, Stack.mk.injEq, Kind.mk.injEq, Metadata.mk.injEq, Option.some.injEq,
    Book.mk.injEq, true_and, and_true] at h
  obtain ⟨rfl, rfl, rfl⟩ := h
  obtain rfl : generation = generation' := Generation.eq_of_copy? hg hg'
  rfl

namespace Shop

/-- A book shop displays the same recipes on settled contents exactly when every offer with a price
to ask for finds the same book there. -/
theorem recipes_settled_iff :
    (book offers).recipes c (some slots.settled) = (book offers).recipes c (some slots) ↔
      ∀ o ∈ offers, c.cost? o.price ≠ none →
        copyableBook? slots.settled o.title = copyableBook? slots o.title := by
  constructor
  · intro h o ho hc
    cases hb : copyableBook? slots o.title with
    | none => exact copyableBook?_settled_of_none hb
    | some source =>
      obtain ⟨r, generation, hr, hg, hresult⟩ := BookOffer.exists_copyRecipe? hc hb
      have hmem : r ∈ (book offers).recipes c (some slots.settled) :=
        h ▸ List.mem_filterMap.2 ⟨o, ho, hr⟩
      obtain ⟨o', -, ho'⟩ := List.mem_filterMap.1 hmem
      obtain ⟨_, _, source', generation', _, hb', hg', -, rfl⟩ :=
        BookOffer.copyRecipe?_eq_some ho'
      obtain rfl := Book.eq_of_copyStack_eq hg' hg hresult
      have htitle : o'.title = o.title :=
        Option.some.inj ((title_of_copyableBook? hb').symm.trans (title_of_copyableBook? hb))
      rw [← htitle, hb']
  · intro h
    exact List.filterMap_congr fun o ho => BookOffer.copyRecipe?_settled (h o ho)

theorem recipes_settled {shop : Shop} (hs : shop.kind = .book → slots.Solid (ofItem writtenBook)) :
    shop.recipes c (some slots.settled) = shop.recipes c (some slots) := by
  cases shop with
  | admin offers => rfl
  | selling offers => exact List.filterMap_congr fun o _ => o.saleRecipe?_settled c slots
  | buying offers => exact List.filterMap_congr fun o _ => o.purchaseRecipe?_settled c slots
  | trading offers => exact List.filterMap_congr fun o _ => o.stockRecipe?_settled slots
  | book offers =>
    exact recipes_settled_iff.2 fun o _ _ => copyableBook?_settled (hs rfl) o.title

/-- Every shop stages a deal the same on contents and on the settled contents. It displays the same
recipes, except that a book shop does so exactly if every offer with a price to ask for finds the
same book, as it does where no written book is empty. -/
theorem empty_stacks_unseen_iff (shop : Shop) (settings : Settings) (c : Currency) (slots : Slots) :
    (∀ d, shop.stage settings d slots.settled = (shop.stage settings d slots).map settled) ∧
    (match shop with
      | book offers =>
        (shop.recipes c (some slots.settled) = shop.recipes c (some slots) ↔
          ∀ o ∈ offers, c.cost? o.price ≠ none →
            copyableBook? slots.settled o.title = copyableBook? slots o.title)
      | _ => shop.recipes c (some slots.settled) = shop.recipes c (some slots)) ∧
    (slots.Solid (ofItem writtenBook) →
      shop.recipes c (some slots.settled) = shop.recipes c (some slots)) := by
  refine ⟨fun d => stage_settled settings d slots shop, ?_, fun hs => recipes_settled fun _ => hs⟩
  cases shop with
  | book offers => exact recipes_settled_iff
  | admin | selling | buying | trading => exact recipes_settled (by simp [kind])

def emptyAtlas : Slots :=
  [some { Book.copyStack { title := some "Atlas", author := some "wren" } .original with
      amount := 0 },
    some (.plain writableBook 1)]

/-- Not every shop is blind to empty stacks: copies of the atlas are displayed although there is no
atlas. -/
theorem exists_seen_empty_stack :
    ¬ ∀ (shop : Shop) (c : Currency) (slots : Slots),
      shop.recipes c (some slots.settled) = shop.recipes c (some slots) := by
  intro h
  have := h (book [⟨"Atlas", 5⟩]) .standard emptyAtlas
  exact absurd this (by decide)

end Shop

end Bazaar
