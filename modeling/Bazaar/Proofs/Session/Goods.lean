import Bazaar.Proofs.Inventory.Payout
import Bazaar.Proofs.Recipe.Matching
import Bazaar.Proofs.Session.Attempt
import Bazaar.Proofs.Shop.Display
import Bazaar.Proofs.Shop.Staging

/-! # Goods on their way through a trade

What the actor pays leaves the offered slots and comes into the contents, and the result goes the
other way into the inventory. A shop that sells or buys does this for everything that is no
currency, a trading shop for everything.
-/

namespace Bazaar

open Slots

variable {q : Pick} {c : Currency} {comparison : Comparison} {shop : Shop} {d : Deal} {t : Trade}
  {k : Shopkeeper} {settings : Settings} {payout : Payout} {r : Recipe} {o : Offered} {w : Window}
  {slots after : Slots} {stock : Option Slots} {container : Option Container}
  {scene scene' : Scene Container}

/-! ## Paid stacks -/

def Offered.totalOf (q : Pick) (o : Offered) : Nat := portion q o.slot1 + portion q o.slot2

def Deal.Paid (d : Deal) (comparison : Comparison) : Prop :=
  pays comparison (some d.first) (some d.recipe.first) = true ∧
    pays comparison d.second d.recipe.second = true

theorem Window.paid_of_select {order : Order} (h : w.select comparison = .matched d order) :
    w.offered.arrange order = (some d.first, d.second) ∧ d.Paid comparison := by
  obtain ⟨ha, hm⟩ := Window.select_eq_matched h
  obtain ⟨-, hp⟩ := Recipe.match?_eq_some hm
  rw [Recipe.paidBy_eq_pays_arrange, ha, Bool.and_eq_true] at hp
  exact ⟨ha, hp⟩

theorem Offered.totalOf_arrange {order : Order} {a b : Option Stack}
    (h : o.arrange order = (a, b)) : o.totalOf q = portion q a + portion q b := by
  cases order with
  | asIs =>
    obtain ⟨rfl, rfl⟩ := Prod.mk.inj h
    rfl
  | swapped =>
    obtain ⟨rfl, rfl⟩ := Prod.mk.inj h
    exact Nat.add_comm _ _

theorem Deal.portion_first (hq : KindOnly q) (hp : d.Paid comparison) :
    portion q (d.first.decreasedBy d.recipe.first.amount) + portion q (some d.paid.1) =
      portion q (some d.first) :=
  portion_decreasedBy_add hq.amountFree (amountIn_le_of_pays hp.1)

theorem Deal.portion_second (hq : KindOnly q) (hp : d.Paid comparison) :
    portion q (d.second.bind (·.decreasedBy d.recipe.secondAmount)) + portion q d.paid.2 =
      portion q d.second := by
  obtain ⟨⟨rfirst, rsecond, result, outOfStock⟩, first, second⟩ := d
  have hle := amountIn_le_of_pays hp.2
  cases second with
  | none => rfl
  | some s =>
    cases rsecond with
    | none => simp [Deal.paid, Recipe.secondAmount, portion_decreasedBy hq.amountFree]
    | some r => exact portion_decreasedBy_add hq.amountFree hle

theorem Trade.totalOf_remaining (hq : KindOnly q)
    (ha : o.arrange t.order = (some t.deal.first, t.deal.second)) (hp : t.deal.Paid comparison) :
    t.remaining.totalOf q + portion q (some t.deal.paid.1) + portion q t.deal.paid.2 =
      o.totalOf q := by
  have hrem : t.remaining.totalOf q =
      portion q (t.deal.first.decreasedBy t.deal.recipe.first.amount) +
        portion q (t.deal.second.bind (·.decreasedBy t.deal.recipe.secondAmount)) := by
    unfold Trade.remaining
    cases t.order with
    | asIs => rfl
    | swapped => exact Nat.add_comm _ _
  rw [Offered.totalOf_arrange ha, hrem, ← Deal.portion_first hq hp, ← Deal.portion_second hq hp]
  omega

/-! ## Priced recipes -/

def Currency.types (c : Currency) : List String := c.kinds.map (·.item)

theorem Currency.item_mem_types {s : Stack} (h : c.isMoney s = true) : s.kind.item ∈ c.types :=
  List.mem_map_of_mem (isMoney_iff.1 h)

/-- A recipe asks for currency where it sells and gives currency where it buys. -/
def Shop.Priced (c : Currency) (r : Recipe) : Shop → Prop
  | .selling _ => c.isMoney r.first = true ∧ ∀ s, r.second = some s → c.isMoney s = true
  | .buying _ => r.second = none ∧ c.isMoney r.result = true
  | _ => True

theorem Shop.priced_of_mem_recipes (h : r ∈ shop.recipes c stock) : shop.Priced c r := by
  cases shop with
  | selling offers =>
    obtain ⟨o, -, ho⟩ := List.mem_filterMap.1 h
    obtain ⟨first, second, _, hc, rfl⟩ := PriceOffer.saleRecipe?_eq_some ho
    obtain ⟨hfirst, hsecond⟩ := Currency.isMoney_of_cost? hc
    exact ⟨hfirst, fun s hs => hsecond s (nonEmpty?_eq_some_iff.1 hs).1⟩
  | buying offers =>
    obtain ⟨o, -, ho⟩ := List.mem_filterMap.1 h
    obtain ⟨_, rfl⟩ := PriceOffer.purchaseRecipe?_eq_some ho
    exact ⟨rfl, c.isMoney_lowStack _⟩
  | admin offers => trivial
  | trading offers => trivial
  | book offers => trivial

theorem Shop.priced_flagged {flag : Bool} (h : shop.Priced c r) :
    shop.Priced c (r.flagged flag) := by
  cases shop <;> exact h

def Window.Priced (c : Currency) (shop : Shop) (w : Window) : Prop :=
  ∀ r ∈ w.recipes, shop.Priced c r

theorem Window.forall_mem_update {p : Recipe → Prop} {recipes : List Recipe}
    (hflag : ∀ r, p r → p (r.flagged true)) (h : ∀ r ∈ w.recipes, p r)
    (hr : ∀ r ∈ recipes, p r) : ∀ r ∈ (w.update recipes).recipes, p r := by
  intro r hmem
  rcases List.mem_append.1 hmem with hmem | hmem
  · exact hr r hmem
  · obtain ⟨r', hr', rfl⟩ := List.mem_map.1 hmem
    exact hflag r' (h r' (List.mem_of_mem_drop hr'))

theorem mem_of_activeFrom {i : Nat} {rs : List Recipe} {a : Active}
    (h : activeFrom o i rs = some a) : a.recipe ∈ rs := by
  induction rs generalizing i with
  | nil => cases h
  | cons r rs ih =>
    rw [activeFrom] at h
    split at h
    · exact List.mem_cons_of_mem _ (ih h)
    · split at h
      · obtain rfl := Option.some.inj h
        exact List.mem_cons_self
      · exact List.mem_cons_of_mem _ (ih h)

theorem Window.displayed_of_select {order : Order} (h : w.select comparison = .matched d order) :
    d.recipe ∈ w.recipes ∧ w.result = some d.recipe.result := by
  unfold Window.select at h
  split at h
  · cases h
  case h_2 result hres =>
    split at h
    · cases h
    case h_2 a ha =>
      split at h
      · cases h
      case isFalse hne =>
        split at h
        · cases h
        · split at h
          · cases h
          · cases h
            exact ⟨mem_of_activeFrom ha, by rw [hres, Decidable.not_not.1 hne]⟩

/-! ## Conservation -/

/-- The picks whose totals a shop keeps: other types than currency where it sells or buys,
everything where it trades. Admin and book shops make what they give. -/
def Shop.Keeps (c : Currency) (q : Pick) : Shop → Prop
  | .selling _ | .buying _ => ∀ s : Stack, s.kind.item ∈ c.types → q s = false
  | .trading _ => True
  | .admin _ | .book _ => False

theorem Shop.keeps_ofKind {κ : Kind}
    (h : shop.kind = .trading ∨ (shop.kind = .selling ∨ shop.kind = .buying) ∧ κ.item ∉ c.types) :
    shop.Keeps c (ofKind κ) := by
  have hother : κ.item ∉ c.types → ∀ s : Stack, s.kind.item ∈ c.types → ofKind κ s = false := by
    intro hκ s hs
    simp only [ofKind, decide_eq_false_iff_not]
    rintro rfl
    exact hκ hs
  cases shop with
  | trading offers => trivial
  | selling offers => exact hother (by simpa [Shop.kind] using h)
  | buying offers => exact hother (by simpa [Shop.kind] using h)
  | admin offers => simp [Shop.kind] at h
  | book offers => simp [Shop.kind] at h

theorem portion_paid_eq_zero {s r : Stack} (hk : ∀ s : Stack, s.kind.item ∈ c.types → q s = false)
    (hm : c.isMoney r = true) (hp : pays comparison (some s) (some r) = true) :
    portion q (some (s.withAmount r.amount)) = 0 := by
  rcases item_eq_of_pays hp with hz | hi
  · simp [Stack.withAmount, hz]
  · have hq : q (s.withAmount r.amount) = false := by
      apply hk
      rw [Stack.withAmount, hi]
      exact Currency.item_mem_types hm
    simp [hq]

theorem Deal.portion_paid_eq_zero (hk : ∀ s : Stack, s.kind.item ∈ c.types → q s = false)
    (hm : c.isMoney d.recipe.first = true ∧ ∀ s, d.recipe.second = some s → c.isMoney s = true)
    (hp : d.Paid comparison) : portion q (some d.paid.1) = 0 ∧ portion q d.paid.2 = 0 := by
  refine ⟨Bazaar.portion_paid_eq_zero hk hm.1 hp.1, ?_⟩
  obtain ⟨⟨rfirst, rsecond, result, outOfStock⟩, first, second⟩ := d
  cases second with
  | none => rfl
  | some s =>
    cases rsecond with
    | none => rfl
    | some r => exact Bazaar.portion_paid_eq_zero hk (hm.2 r rfl) hp.2

/-- Staging moves the result out of the contents and the paid stacks into them. -/
theorem Shop.total_stage (hq : KindOnly q) (hk : shop.Keeps settings.currency q)
    (hr : shop.Priced settings.currency d.recipe) (hp : d.Paid comparison)
    (h : shop.stage settings d slots = .ok after) :
    total q after + portion q (some d.recipe.result) =
      total q slots + portion q (some d.paid.1) + portion q d.paid.2 := by
  cases shop with
  | selling offers =>
    obtain ⟨h1, h2⟩ := Deal.portion_paid_eq_zero hk hr hp
    have hm := fun s hs => hk s (Currency.item_mem_types hs)
    rw [total_stageSale hq hm (work_of_stage h), h1, h2, Nat.add_zero]
  | buying offers =>
    have hm := fun s hs => hk s (Currency.item_mem_types hs)
    have hresult : portion q (some d.recipe.result) = 0 := by simp [hm _ hr.2]
    have hsecond : d.paid.2 = none := by
      unfold Deal.paid
      rw [hr.1]
      cases d.second <;> rfl
    rw [total_stagePurchase hq hm (work_of_stage h), d.received_eq_paid, hresult, hsecond]
    rfl
  | trading offers =>
    rw [← d.received_eq_paid]
    exact total_stageTrade hq (work_of_stage h)
  | admin offers => exact hk.elim
  | book offers => exact hk.elim

def Scene.totalOf (q : Pick) (scene : Scene Container) : Nat :=
  scene.window.offered.totalOf q + scene.inventory.totalOf q +
    total q ((contentsOf scene.container).getD [])

theorem Scene.Intact.totalOf (h : scene.Intact scene') : scene'.totalOf q = scene.totalOf q := by
  rw [Scene.totalOf, h.window, h.inventory, h.contents, Scene.totalOf]

theorem Scene.Traded.totalOf (hq : KindOnly q) (hk : k.shop.Keeps settings.currency q)
    (hw : scene.window.Priced settings.currency k.shop)
    (hpay : ∀ result, scene.window.result = some result → scene.inventory.Payable result payout)
    (h : scene.Traded k settings payout t scene') : scene'.totalOf q = scene.totalOf q := by
  obtain ⟨hmem, hres⟩ := Window.displayed_of_select h.selected
  obtain ⟨ha, hp⟩ := Window.paid_of_select h.selected
  have hu : k.shop.usesContainer = true := by
    cases hs : k.shop <;> rw [hs] at hk
    case admin => exact hk.elim
    all_goals rfl
  obtain ⟨before, after, hbefore, hstage, hafter⟩ := h.staged hu
  have hcontents := Shop.total_stage hq hk (hw _ hmem) hp hstage
  have hinventory := Inventory.totalOf_pay hq (hpay _ hres) h.paid
  have hoffered := Trade.totalOf_remaining hq ha hp
  have hleft : scene'.window.offered.totalOf q = t.remaining.totalOf q := by
    rw [h.offered]
    simp [Offered.totalOf, portion_nonEmpty?]
  unfold Scene.totalOf
  rw [hleft, hinventory, hbefore, hafter, Option.getD_some, Option.getD_some]
  omega

end Bazaar
