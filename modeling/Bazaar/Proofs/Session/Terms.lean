import Bazaar.Proofs.Session.Goods

/-! # The terms of a committed trade

A trade is selected under lenient comparison and matched again under the configured one, which may
line the offered stacks up in another order. What is taken from the offered slots, put into the
container and told of the trade all follows the second order.
-/

namespace Bazaar

open Slots

variable {o : Offered} {rs : List Recipe} {w : Window} {c : Comparison} {d : Deal} {t : Trade}
  {order : Order} {i i' : Inventory} {payout : Payout} {s s' : Session} {k : Shopkeeper}
  {settings : Settings} {scene scene' : Scene Container} {details : CommittedTrade}

/-! ## Selection -/

/-- A recipe is the first of a list that is in stock and paid for under lenient comparison. -/
structure Offered.Selects (o : Offered) (rs : List Recipe) (index : Nat) (r : Recipe) : Prop where
  displayed : rs[index]? = some r
  inStock : r.outOfStock = false
  paid : (r.match? o .lenient).isSome = true
  least : ∀ j < index, ∀ r', rs[j]? = some r' → r'.outOfStock = true ∨ r'.match? o .lenient = none

theorem Offered.Selects.cons {r r' : Recipe} {index : Nat} (h : o.Selects rs index r)
    (hr : r'.outOfStock = true ∨ r'.match? o .lenient = none) :
    o.Selects (r' :: rs) (index + 1) r where
  displayed := by simpa using h.displayed
  inStock := h.inStock
  paid := h.paid
  least := by
    intro j hj q hq
    cases j with
    | zero =>
      obtain rfl : r' = q := by simpa using hq
      exact hr
    | succ j => exact h.least j (by omega) q (by simpa using hq)

theorem selects_of_activeFrom {n : Nat} {a : Active} (h : activeFrom o n rs = some a) :
    ∃ index, o.Selects rs index a.recipe := by
  induction rs generalizing n with
  | nil => cases h
  | cons r rs ih =>
    rw [activeFrom] at h
    split at h
    case isTrue hout =>
      obtain ⟨index, hs⟩ := ih h
      exact ⟨index + 1, hs.cons (Or.inl hout)⟩
    case isFalse hin =>
      split at h
      case h_1 order hm =>
        obtain rfl := Option.some.inj h
        exact ⟨0, rfl, by simpa using hin, by simp [hm], fun j hj => absurd hj (Nat.not_lt_zero j)⟩
      case h_2 hm =>
        obtain ⟨index, hs⟩ := ih h
        exact ⟨index + 1, hs.cons (Or.inr hm)⟩

theorem Window.selects_of_select (h : w.select c = .matched d order) :
    ∃ index, w.offered.Selects w.recipes index d.recipe := by
  unfold select at h
  split at h
  · cases h
  split at h
  · cases h
  case h_2 a ha =>
    split at h
    · cases h
    split at h
    · cases h
    split at h
    · cases h
    · cases h
      exact selects_of_activeFrom ha

/-! ## Offered slots -/

/-- A slot loses some items and keeps the kind and the maximum size of the rest. -/
structure Slots.Loses (before after : Option Stack) (n : Amount) : Prop where
  amount : (amountIn after).val + n.val = (amountIn before).val
  rest : ∀ s, after = some s → ∃ b, before = some b ∧ s = b.withAmount s.amount

theorem loses_decreasedBy {s : Stack} {n : Amount} (h : n.val ≤ s.amount.val) :
    Loses (some s) (nonEmpty? (s.decreasedBy n)) n where
  amount := by
    rw [amountIn_nonEmpty?, amountIn_decreasedBy, amountIn_some]
    omega
  rest := by
    intro r hr
    obtain ⟨hr, -⟩ := nonEmpty?_eq_some_iff.1 hr
    unfold Stack.decreasedBy at hr
    split at hr
    · cases hr
    · obtain rfl := Option.some.inj hr
      exact ⟨s, rfl, rfl⟩

theorem Offered.arrange_nonEmpty? (o : Offered) (order : Order) :
    ({ slot1 := nonEmpty? o.slot1, slot2 := nonEmpty? o.slot2 } : Offered).arrange order =
      (nonEmpty? (o.arrange order).1, nonEmpty? (o.arrange order).2) := by
  cases order <;> rfl

theorem Trade.arrange_remaining (t : Trade) :
    t.remaining.arrange t.order = (t.deal.first.decreasedBy t.deal.recipe.first.amount,
      t.deal.second.bind (·.decreasedBy t.deal.recipe.secondAmount)) := by
  unfold remaining
  cases t.order <;> rfl

theorem Deal.loses_first (hp : d.Paid c) :
    Loses (some d.first) (nonEmpty? (d.first.decreasedBy d.recipe.first.amount))
      d.paid.1.amount :=
  loses_decreasedBy (amountIn_le_of_pays hp.1)

theorem Deal.loses_second (hp : d.Paid c) :
    Loses d.second (nonEmpty? (d.second.bind (·.decreasedBy d.recipe.secondAmount)))
      (amountIn d.paid.2) := by
  have hle := amountIn_le_of_pays hp.2
  obtain ⟨⟨rfirst, rsecond, result, outOfStock⟩, first, second⟩ := d
  cases second with
  | none => exact ⟨rfl, fun s hs => nomatch hs⟩
  | some s =>
    cases rsecond with
    | none => exact loses_decreasedBy (Nat.zero_le _)
    | some r => exact loses_decreasedBy hle

/-! ## Payouts -/

def Inventory.given (i : Inventory) : Payout → Inventory
  | .cursor stack => { i with cursor := nonEmpty? (some stack) }
  | .slot index stack => { i with storage := i.storage.set index (some stack) }
  | .storage contents => { i with storage := contents }

theorem Inventory.eq_given_of_pay (h : i.pay payout = .ok i') :
    i' = i.given payout ∧
      ∀ index stack, payout = .slot index stack → index < i.storage.length := by
  cases payout with
  | cursor stack =>
    obtain ⟨-, rfl⟩ := setCursor_eq_ok_iff.1 h
    exact ⟨rfl, by simp⟩
  | slot index stack =>
    rw [pay] at h
    split at h
    case isTrue hlt =>
      obtain ⟨-, rfl⟩ := setStorage_eq_ok_iff.1 h
      refine ⟨rfl, fun _ _ hp => ?_⟩
      cases hp
      exact hlt
    case isFalse => cases h
  | storage contents =>
    obtain ⟨-, rfl⟩ := setStorage_eq_ok_iff.1 h
    exact ⟨rfl, by simp⟩

/-! ## Commits -/

/-- The terms on which a trade was committed between two scenes: the first displayed recipe that is
in stock and paid for, with the displayed result, and the offered stacks in the order that pays for
it under the configured comparison. -/
structure CommittedTrade.Terms (details : CommittedTrade) (k : Shopkeeper) (settings : Settings)
    (payout : Payout) (scene scene' : Scene Container) (order : Order) (first : Stack)
    (second : Option Stack) : Prop where
  selected : ∃ index, scene.window.offered.Selects scene.window.recipes index details.recipe
  result : scene.window.result = some details.recipe.result
  matched : details.recipe.match? scene.window.offered settings.comparison = some order
  swapped : details.swapped = true ↔ order = .swapped
  arranged : scene.window.offered.arrange order = (some first, second)
  paid : (details.paid1, details.paid2) = Deal.paid ⟨details.recipe, first, second⟩
  /-- Each offered slot loses what was paid for the requirement that it is meant for. -/
  left : ∃ left₁ left₂, scene'.window.offered.arrange order = (left₁, left₂) ∧
    Loses (some first) left₁ details.paid1.amount ∧ Loses second left₂ (amountIn details.paid2)
  /-- The container holds what the shop makes of its contents, if the shop uses it. -/
  staged : k.shop.usesContainer = true → ∃ before after,
    contentsOf scene.container = some before ∧
    k.shop.stage settings ⟨details.recipe, first, second⟩ before = .ok after ∧
    contentsOf scene'.container = some after
  idle : k.shop.usesContainer = false → scene'.container = scene.container
  given : scene'.inventory = scene.inventory.given payout
  inRange : ∀ index stack, payout = .slot index stack → index < scene.inventory.storage.length

namespace Session

theorem committed_terms (h : s.attempt k settings payout scene = (.committed details, s', scene')) :
    ∃ order first second, details.Terms k settings payout scene scene' order first second := by
  rcases attempt_cases h with ⟨hne, -⟩ | ⟨t, hout, ht⟩
  · exact absurd rfl (hne details)
  obtain rfl := Outcome.committed.inj hout
  obtain ⟨ha, hm⟩ := Window.select_eq_matched ht.selected
  obtain ⟨-, hp⟩ := Window.paid_of_select ht.selected
  obtain ⟨hgiven, hslot⟩ := Inventory.eq_given_of_pay ht.paid
  have hleft : scene'.window.offered.arrange t.order =
      (nonEmpty? (t.deal.first.decreasedBy t.deal.recipe.first.amount),
        nonEmpty? (t.deal.second.bind (·.decreasedBy t.deal.recipe.secondAmount))) := by
    rw [ht.offered, Offered.arrange_nonEmpty?, Trade.arrange_remaining]
  exact ⟨t.order, t.deal.first, t.deal.second,
    { selected := Window.selects_of_select ht.selected
      result := (Window.displayed_of_select ht.selected).2
      matched := hm
      swapped := by simp [Trade.committed, Order.isSwapped]
      arranged := ha
      paid := rfl
      left := ⟨_, _, hleft, Deal.loses_first hp, Deal.loses_second hp⟩
      staged := ht.staged
      idle := ht.idle
      given := hgiven
      inRange := hslot }⟩

def jewelStall : Shopkeeper where
  profile := { id := .ofNat 0, name := "stall" }
  shop := .selling [⟨.plain "apple" 1, 2⟩, ⟨.plain "diamond" 1, 25⟩]

def jewelChest : Container := { contents := [some (.plain "diamond" 2), none, none] }

def jewelCustomer : Scene Container where
  window := (Window.ofRecipes (.ofNat 1) (jewelStall.recipes .standard (some jewelChest)).1).place
    { slot1 := some (.plain "emerald" 10), slot2 := some (.plain "emerald_block" 3) }
  inventory := {}
  container := some jewelChest
  listener := fun _ _ => .allow
  ids := .ofNat

def jewelDetails : CommittedTrade where
  trade := .ofNat 0
  shop := .ofNat 0
  actor := .ofNat 1
  recipe := {
    first := .plain "emerald_block" 2, second := some (.plain "emerald" 7)
    result := .plain "diamond" 1 }
  paid1 := .plain "emerald_block" 2
  paid2 := some (.plain "emerald" 7)
  swapped := true
  index := 1

def jewelAttempt : Outcome × Session × Scene Container :=
  (start { id := .ofNat 1, name := "customer" } {}).attempt jewelStall { comparison := .strict }
    (.slot 4 (.plain "diamond" 1)) jewelCustomer

theorem committed_terms_jewelCustomer :
    jewelAttempt.1 = .committed jewelDetails ∧
      contentsOf jewelAttempt.2.2.container = some
        [some (.plain "diamond" 1), some (.plain "emerald_block" 2), some (.plain "emerald" 7)] ∧
      ∃ order first second, jewelDetails.Terms jewelStall { comparison := .strict }
        (.slot 4 (.plain "diamond" 1)) jewelCustomer jewelAttempt.2.2 order first second := by
  have hout : jewelAttempt.1 = .committed jewelDetails := by decide
  have h : (start { id := .ofNat 1, name := "customer" } {}).attempt jewelStall
      { comparison := .strict } (.slot 4 (.plain "diamond" 1)) jewelCustomer =
        (.committed jewelDetails, jewelAttempt.2.1, jewelAttempt.2.2) :=
    Prod.ext hout rfl
  exact ⟨hout, by decide, committed_terms h⟩

end Session

end Bazaar
