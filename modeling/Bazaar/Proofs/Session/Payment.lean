import Bazaar.Proofs.Session.Terms

/-! # Payments

The amounts of a recipe divide what is offered for it: one part is paid and the rest stays. The
paid part is told to the listener before the trade and to everybody after it, it goes into the
container of a shop that takes items, and the rest is put back into the window. The first three
follow the order of the requirements, the last one the order of the slots.
-/

namespace Bazaar

open Slots

variable {whole paid left : Option Stack} {o : Offered} {r : Recipe} {c : Comparison} {d : Deal}
  {t : Trade} {order : Order}

/-! ## Divided slots -/

def Slots.PartOf (part whole : Option Stack) : Prop :=
  ∀ s, part = some s → ∃ w, whole = some w ∧ s = w.withAmount s.amount

/-- A slot is divided into a part that is paid and a part that is left. -/
structure Slots.Divides (whole paid left : Option Stack) : Prop where
  amount : (amountIn paid).val + (amountIn left).val = (amountIn whole).val
  paid : PartOf paid whole
  left : PartOf left whole

theorem Slots.Loses.divides (h : Loses whole left (amountIn paid)) (hp : PartOf paid whole) :
    Divides whole paid left where
  amount := by
    rw [Nat.add_comm]
    exact h.amount
  paid := hp
  left := h.rest

theorem partOf_withAmount (s : Stack) (n : Amount) : PartOf (some (s.withAmount n)) (some s) := by
  intro t ht
  obtain rfl := Option.some.inj ht
  exact ⟨s, rfl, rfl⟩

theorem Deal.partOf_paid_second (d : Deal) : PartOf d.paid.2 d.second := by
  obtain ⟨⟨rfirst, rsecond, result, outOfStock⟩, first, second⟩ := d
  cases second with
  | none =>
    intro s hs
    cases hs
  | some s =>
    cases rsecond with
    | none =>
      intro s hs
      cases hs
    | some r => exact partOf_withAmount s r.amount

theorem nonEmpty?_bind_decreasedBy (slot : Option Stack) (n : Amount) :
    nonEmpty? (slot.bind (·.decreasedBy n)) = slot.bind (·.decreasedBy n) := by
  cases slot with
  | none => rfl
  | some s => exact nonEmpty?_decreasedBy s n

theorem Deal.divides_first (hp : d.Paid c) :
    Divides (some d.first) (some d.paid.1) (d.first.decreasedBy d.recipe.first.amount) := by
  have hloses := loses_first hp
  rw [nonEmpty?_decreasedBy] at hloses
  exact hloses.divides (partOf_withAmount d.first d.recipe.first.amount)

theorem Deal.divides_second (hp : d.Paid c) :
    Divides d.second d.paid.2 (d.second.bind (·.decreasedBy d.recipe.secondAmount)) := by
  have hloses := loses_second hp
  rw [nonEmpty?_bind_decreasedBy] at hloses
  exact hloses.divides d.partOf_paid_second

/-! ## Slots of the window -/

def Offered.ofArranged (first second : Option Stack) : Order → Offered
  | .asIs => { slot1 := first, slot2 := second }
  | .swapped => { slot1 := second, slot2 := first }

theorem Offered.eq_ofArranged {a b : Option Stack} (h : o.arrange order = (a, b)) :
    o = .ofArranged a b order := by
  cases order with
  | asIs =>
    obtain ⟨rfl, rfl⟩ := Prod.mk.inj h
    rfl
  | swapped =>
    obtain ⟨rfl, rfl⟩ := Prod.mk.inj h
    rfl

def Trade.paidSlots (t : Trade) : Offered :=
  .ofArranged (some t.deal.paid.1) t.deal.paid.2 t.order

theorem Trade.divides_slots (ha : o.arrange t.order = (some t.deal.first, t.deal.second))
    (hp : t.deal.Paid c) :
    Divides o.slot1 t.paidSlots.slot1 t.remaining.slot1 ∧
      Divides o.slot2 t.paidSlots.slot2 t.remaining.slot2 := by
  have hfirst := Deal.divides_first hp
  have hsecond := Deal.divides_second hp
  rw [Offered.eq_ofArranged ha, Offered.eq_ofArranged t.arrange_remaining, paidSlots]
  cases t.order with
  | asIs => exact ⟨hfirst, hsecond⟩
  | swapped => exact ⟨hsecond, hfirst⟩

/-! ## The parties of a trade -/

/-- Everybody reckons with the same payment: the listener is asked about it, it is told to have been
paid, and the shops that take items put it into their contents, after what they give. Each offered
slot is divided into its part of the payment and what remains of it. -/
structure Trade.Balanced (t : Trade) (o : Offered) : Prop where
  asked : (t.pending.offered1, t.pending.offered2) = t.deal.paid ∧
    t.pending.recipe = t.deal.recipe ∧ (t.pending.swapped = true ↔ t.order = .swapped)
  told : (t.committed.paid1, t.committed.paid2) = t.deal.paid ∧
    t.committed.recipe = t.deal.recipe ∧ (t.committed.swapped = true ↔ t.order = .swapped)
  received : t.deal.received = t.deal.paid
  traded : ∀ settings offers slots after,
    (Shop.trading offers).stage settings t.deal slots = .ok after → ∀ κ,
      total (ofKind κ) after + portion (ofKind κ) (some t.deal.recipe.result) =
        total (ofKind κ) slots + portion (ofKind κ) (some t.committed.paid1) +
          portion (ofKind κ) t.committed.paid2
  bought : ∀ settings offers slots after,
    (Shop.buying offers).stage settings t.deal slots = .ok after →
      ∃ offer left, PriceOffer.find? offers t.deal.recipe.first = some offer ∧
        settings.currency.withdraw? offer.price slots = some left ∧ ∀ κ,
          total (ofKind κ) after =
            total (ofKind κ) left + portion (ofKind κ) (some t.committed.paid1)
  slot1 : Divides o.slot1 t.paidSlots.slot1 t.remaining.slot1
  slot2 : Divides o.slot2 t.paidSlots.slot2 t.remaining.slot2

theorem Trade.balanced (ha : o.arrange t.order = (some t.deal.first, t.deal.second))
    (hp : t.deal.Paid c) : t.Balanced o where
  asked := ⟨rfl, rfl, by simp [pending, Order.isSwapped]⟩
  told := ⟨rfl, rfl, by simp [committed, Order.isSwapped]⟩
  received := t.deal.received_eq_paid
  traded _ _ _ _ h κ := Shop.total_stageTrade (kindOnly_ofKind κ) (Shop.work_of_stage h)
  bought _ _ _ _ h := by
    obtain ⟨offer, left, hoffer, hleft, hreceive⟩ :=
      Shop.stagePurchase_eq_ok_iff.1 (Shop.work_of_stage h)
    exact ⟨offer, left, hoffer, hleft, fun κ => total_receive (kindOnly_ofKind κ) hreceive⟩
  slot1 := (divides_slots ha hp).1
  slot2 := (divides_slots ha hp).2

/-- The offered stacks that match a recipe in some order are large enough for its requirements in
that order, so that nothing is cut off where amounts are taken away. In every trade of the recipe
for these stacks payment, receipt and rest add up. -/
theorem Recipe.payment_and_rest_add_up (h : r.match? o c = some order) :
    ∃ first second, o.arrange order = (some first, second) ∧ r.MetBy first second ∧
      ∀ t : Trade, t.deal = { recipe := r, first, second } → t.order = order → t.Balanced o := by
  obtain ⟨first, second, harrange, hmet⟩ := exists_metBy h
  refine ⟨first, second, harrange, hmet, ?_⟩
  rintro t hdeal rfl
  have hpaid := paidBy_iff.1 (paidBy_of_match? h)
  rw [harrange] at hpaid
  apply Trade.balanced (c := c)
  · rw [hdeal, harrange]
  · rw [hdeal]
    exact hpaid

def Recipe.sword : Recipe where
  first := .plain "gold_ingot" 4
  second := some (.plain "coal" 2)
  result := .plain "golden_sword" 1

def Offered.coalFirst : Offered where
  slot1 := some (.plain "coal" 5)
  slot2 := some (.plain "gold_ingot" 4)

def Trade.sword : Trade where
  id := .ofNat 0
  shop := .ofNat 0
  actor := { id := .ofNat 1, name := "smith" }
  deal := {
    recipe := .sword, first := .plain "gold_ingot" 4, second := some (.plain "coal" 5) }
  order := .swapped
  index := 1

theorem Recipe.payment_and_rest_add_up_coalFirst :
    Trade.sword.Balanced .coalFirst ∧
      Trade.sword.paidSlots =
        { slot1 := some (.plain "coal" 2), slot2 := some (.plain "gold_ingot" 4) } ∧
      Trade.sword.remaining = { slot1 := some (.plain "coal" 3), slot2 := none } ∧
      (Shop.trading [{
          result := .plain "golden_sword" 1, first := .plain "gold_ingot" 4
          second := some (.plain "coal" 2) }]).stage {} Trade.sword.deal
        [some (.plain "golden_sword" 3), none, none] = .ok [some (.plain "golden_sword" 2),
          some (.plain "gold_ingot" 4), some (.plain "coal" 2)] := by
  have hmatch : Recipe.sword.match? .coalFirst .lenient = some .swapped := by decide
  obtain ⟨first, second, harrange, -, hbalanced⟩ := payment_and_rest_add_up hmatch
  obtain ⟨hfirst, rfl⟩ := Prod.mk.inj harrange
  obtain rfl := Option.some.inj hfirst
  exact ⟨hbalanced .sword rfl rfl, by decide, by decide, by decide⟩

end Bazaar
