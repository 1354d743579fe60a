import Bazaar.Proofs.Currency.Cost
import Bazaar.Shop.Display

/-! # What the displayed recipes ask for and give

A recipe keeps the stacks of its offer. A selling or book shop asks for currency, a buying shop
gives currency, and the flag for missing stock has no part in it.
-/

namespace Bazaar

variable {c : Currency} {r : Recipe} {stock : Option Slots}

theorem Recipe.make?_eq_some_iff {first result : Stack} {second : Option Stack} :
    make? first second result = some r ↔
      first.isEmpty = false ∧ result.isEmpty = false ∧
        r = { first, second := nonEmpty? second, result } := by
  unfold make? make
  cases first.isEmpty <;> cases result.isEmpty <;> simp [Except.toOption, eq_comm]

namespace Currency

theorem isMoney_lowStack (c : Currency) (n : Amount) : c.isMoney (c.lowStack n) = true := by
  simp [isMoney, isLow, lowStack, Stack.similar, Stack.withAmount]

theorem isMoney_of_highStack? {n : Amount} {s : Stack} (h : c.highStack? n = some s) :
    c.isMoney s = true := by
  obtain ⟨hi, hc, rfl⟩ := Option.map_eq_some_iff.1 h
  simp [isMoney, isHigh, hc, Stack.similar, Stack.withAmount]

theorem isMoney_of_cost? {price : Amount} {first : Stack} {second : Option Stack}
    (h : c.cost? price = some (first, second)) :
    c.isMoney first = true ∧ ∀ s, second = some s → c.isMoney s = true := by
  obtain ⟨-, -, ⟨hhigh, rfl⟩ | ⟨-, rfl, rfl⟩⟩ := cost?_eq_some h
  · refine ⟨isMoney_of_highStack? hhigh, fun s hs => ?_⟩
    obtain ⟨hs, -⟩ := nonEmpty?_eq_some_iff.1 hs
    exact Option.some.inj hs ▸ c.isMoney_lowStack _
  · exact ⟨c.isMoney_lowStack _, by simp⟩

theorem isEmpty_of_cost? {price : Amount} {first : Stack} {second : Option Stack}
    (h : c.cost? price = some (first, second)) : first.isEmpty = false :=
  (cost?_eq_some h).2.1

end Currency

theorem PriceOffer.saleRecipe?_eq_some {o : PriceOffer} (h : o.saleRecipe? c stock = some r) :
    ∃ first second outOfStock, c.cost? o.price = some (first, second) ∧
      r = { first, second := nonEmpty? second, result := o.item, outOfStock } := by
  unfold saleRecipe? at h
  split at h
  · cases h
  case h_2 first second hc =>
    obtain ⟨x, hx, rfl⟩ := Option.map_eq_some_iff.1 h
    obtain ⟨-, -, rfl⟩ := Recipe.make?_eq_some_iff.1 hx
    exact ⟨first, second, _, hc, rfl⟩

theorem PriceOffer.purchaseRecipe?_eq_some {o : PriceOffer}
    (h : o.purchaseRecipe? c stock = some r) :
    ∃ outOfStock, r = { first := o.item, result := c.lowStack o.price, outOfStock } := by
  unfold purchaseRecipe? at h
  split at h
  · cases h
  · obtain ⟨x, hx, rfl⟩ := Option.map_eq_some_iff.1 h
    obtain ⟨-, -, rfl⟩ := Recipe.make?_eq_some_iff.1 hx
    exact ⟨_, rfl⟩

theorem copyableBook?_eq_some {slots : Slots} {title : String} {b : Book}
    (h : copyableBook? slots title = some b) :
    ∃ s, some s ∈ slots ∧ s.kind.item = writtenBook ∧ s.kind.data.book = some b ∧
      b.title = some title ∧ b.generation.copy?.isSome = true := by
  obtain ⟨slot, hmem, hslot⟩ := List.exists_of_findSome?_eq_some h
  obtain ⟨s, rfl, hs⟩ := Option.bind_eq_some_iff.1 hslot
  split at hs
  case isTrue hitem =>
    obtain ⟨b', hb', hfound⟩ := Option.bind_eq_some_iff.1 hs
    dsimp only at hfound
    split at hfound
    case isTrue hcopy =>
      obtain rfl := Option.some.inj hfound
      exact ⟨s, hmem, hitem, hb', hcopy⟩
    case isFalse => cases hfound
  case isFalse => cases hs

theorem BookOffer.copyRecipe?_eq_some {o : BookOffer} {slots : Slots}
    (h : o.copyRecipe? c slots = some r) :
    ∃ first second source generation outOfStock, copyableBook? slots o.title = some source ∧
      source.generation.copy? = some generation ∧ c.cost? o.price = some (first, second) ∧
      r = { first, second := nonEmpty? second, result := source.copyStack generation, outOfStock }
      := by
  unfold copyRecipe? at h
  simp only [Option.bind_eq_bind, Option.bind_eq_some_iff, Option.pure_def, Option.some.injEq] at h
  obtain ⟨source, hs, generation, hg, ⟨first, second⟩, hc, x, hx, rfl⟩ := h
  obtain ⟨-, -, rfl⟩ := Recipe.make?_eq_some_iff.1 hx
  exact ⟨first, second, source, generation, _, hs, hg, hc, rfl⟩

/-! ## Recipes apart from their flags -/

section Flags

variable (c) (stock stock' : Option Slots) (flag : Bool)

theorem PriceOffer.map_flagged_saleRecipe? (o : PriceOffer) :
    (o.saleRecipe? c stock).map (·.flagged flag) =
      (o.saleRecipe? c stock').map (·.flagged flag) := by
  unfold saleRecipe?
  cases c.cost? o.price with
  | none => rfl
  | some cost => simp only [Option.map_map, Function.comp_def, Recipe.flagged]

theorem PriceOffer.map_flagged_purchaseRecipe? (o : PriceOffer) :
    (o.purchaseRecipe? c stock).map (·.flagged flag) =
      (o.purchaseRecipe? c stock').map (·.flagged flag) := by
  unfold purchaseRecipe?
  split
  · rfl
  · simp only [Option.map_map, Function.comp_def, Recipe.flagged]

theorem TradeOffer.map_flagged_stockRecipe? (o : TradeOffer) :
    (o.stockRecipe? stock).map (·.flagged flag) = (o.stockRecipe? stock').map (·.flagged flag) := by
  simp only [stockRecipe?, Option.map_map, Function.comp_def, Recipe.flagged]

/-- Only a shop that copies books has other recipes, and not just other flags, for another stock. -/
theorem Shop.map_flagged_recipes {shop : Shop} (hs : shop.kind ≠ .book) :
    (shop.recipes c stock).map (·.flagged flag) = (shop.recipes c stock').map (·.flagged flag) := by
  cases shop with
  | admin offers => rfl
  | selling offers =>
    simp only [recipes, List.map_filterMap, PriceOffer.map_flagged_saleRecipe? c stock stock']
  | buying offers =>
    simp only [recipes, List.map_filterMap, PriceOffer.map_flagged_purchaseRecipe? c stock stock']
  | trading offers =>
    simp only [recipes, List.map_filterMap, TradeOffer.map_flagged_stockRecipe? stock stock']
  | book offers => exact absurd rfl hs

theorem Shop.length_recipes_eq {shop : Shop} (hs : shop.kind ≠ .book) :
    (shop.recipes c stock).length = (shop.recipes c stock').length := by
  simpa using congrArg List.length (map_flagged_recipes c stock stock' true hs)

end Flags

end Bazaar
