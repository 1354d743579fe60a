import Bazaar.Proofs.Exchange.Steps
import Bazaar.Proofs.Session.Goods

/-! # Markets

In a market many visitors deal with one shop. Everybody has an own window and an own inventory, and
all share the container. A shop that sells, buys or trades neither makes nor loses goods there,
whatever the visitors do and whichever writes are refused.
-/

namespace Bazaar

open Slots

variable {q : Pick} {k : Shopkeeper} {settings : Settings} {scene scene' : Scene Container}

/-! ## Steps -/

namespace Scene

theorem totalOf_refresh (scene : Scene Container) (k : Shopkeeper) (settings : Settings)
    (actor : ActorId) : (scene.refresh k settings actor).totalOf q = scene.totalOf q := by
  have hcontents : contentsOf (scene.refresh k settings actor).container =
      contentsOf scene.container := contentsOf_stockOf scene.container
  unfold totalOf
  rw [hcontents, offered_refresh]
  rfl

theorem priced_refresh (h : scene.window.Priced settings.currency k.shop) (actor : ActorId) :
    (scene.refresh k settings actor).window.Priced settings.currency k.shop :=
  forall_mem_refresh (p := fun r => k.shop.Priced settings.currency r)
    (fun _ hr => Shop.priced_flagged hr) h (fun _ hr => Shop.priced_of_mem_recipes hr) actor

/-- A step keeps the totals that the shop keeps, and displays priced recipes. -/
theorem Step.keeps (hq : KindOnly q) (hk : k.shop.Keeps settings.currency q)
    (h : Step k settings scene scene') (hw : scene.window.Priced settings.currency k.shop) :
    scene'.totalOf q = scene.totalOf q ∧ scene'.window.Priced settings.currency k.shop := by
  cases h with
  | attempt hr hp h =>
    rcases Session.attempt_cases h with ⟨-, hi⟩ | ⟨t, -, ht⟩
    · exact ⟨hi.totalOf, hi.window ▸ hw⟩
    · refine ⟨ht.totalOf hq hk hw fun result hr' => ?_, fun r hmem => hw r (ht.recipes ▸ hmem)⟩
      obtain rfl := Option.some.inj (hr.symm.trans hr')
      exact hp
  | refresh actor => exact ⟨totalOf_refresh _ _ _ _, priced_refresh hw _⟩

theorem Steps.keeps (hq : KindOnly q) (hk : k.shop.Keeps settings.currency q)
    (h : Steps k settings scene scene') (hw : scene.window.Priced settings.currency k.shop) :
    scene'.totalOf q = scene.totalOf q ∧ scene'.window.Priced settings.currency k.shop := by
  induction h with
  | refl => exact ⟨rfl, hw⟩
  | tail _ hstep ih =>
    obtain ⟨ht, hw'⟩ := hstep.keeps hq hk ih.2
    exact ⟨ht.trans ih.1, hw'⟩

end Scene

/-! ## Visitors -/

structure Visitor where
  id : ActorId
  window : Window
  inventory : Inventory

/-- One shop with its visitors. -/
structure Market where
  exchange : Exchange
  visitors : List Visitor
  container : Option Container
  ids : Nat → TradeId
  journal : Journal := {}

/-- What happens in a market: a visitor makes a gesture, on which a listener has an opinion, or
writes to the container or to an inventory are refused from now on, or are no longer. -/
inductive Act
  | gesture (visitor : Nat) (g : Gesture) (listener : List PendingTrade → PendingTrade → Verdict)
  | container (locked unloaded : Bool)
  | inventory (visitor : Nat) (locked : Bool)

def Visitor.totalOf (q : Pick) (v : Visitor) : Nat :=
  v.window.offered.totalOf q + v.inventory.totalOf q

namespace Market

variable {m m' : Market} {v : Visitor} {i : Nat} {g : Gesture}
  {listener : List PendingTrade → PendingTrade → Verdict}

def sceneFor (m : Market) (v : Visitor) (listener : List PendingTrade → PendingTrade → Verdict) :
    Scene Container :=
  { window := v.window, inventory := v.inventory, container := m.container, listener, ids := m.ids
    journal := m.journal }

def answer (k : Shopkeeper) (m : Market) (i : Nat) (v : Visitor) (g : Gesture)
    (listener : List PendingTrade → PendingTrade → Verdict) : Market :=
  let (_, exchange, scene) := m.exchange.handle v.id k g (m.sceneFor v listener)
  { m with
    exchange
    visitors := m.visitors.set i { v with window := scene.window, inventory := scene.inventory }
    container := scene.container
    journal := scene.journal }

/-- The market after one act; acts of visitors who are not there change nothing. -/
def step (k : Shopkeeper) (m : Market) : Act → Market
  | .gesture i g listener =>
    match m.visitors[i]? with
    | none => m
    | some v => m.answer k i v g listener
  | .container locked unloaded =>
    { m with container := m.container.map fun c => { c with locked, unloaded } }
  | .inventory i locked =>
    match m.visitors[i]? with
    | none => m
    | some v =>
      { m with visitors := m.visitors.set i { v with inventory := { v.inventory with locked } } }

def run (k : Shopkeeper) (m : Market) (acts : List Act) : Market := acts.foldl (step k) m

def totalOf (q : Pick) (m : Market) : Nat :=
  (m.visitors.map (Visitor.totalOf q)).sum + total q ((contentsOf m.container).getD [])

def Priced (k : Shopkeeper) (m : Market) : Prop :=
  ∀ v ∈ m.visitors, v.window.Priced m.exchange.settings.currency k.shop

def Opened (k : Shopkeeper) (m : Market) : Prop :=
  ∀ v ∈ m.visitors, ∃ container : Option Container,
    v.window.recipes = (k.recipes m.exchange.settings.currency container).1

theorem Opened.priced (h : m.Opened k) : m.Priced k := by
  rintro v hv r hr
  obtain ⟨container, hrecipes⟩ := h v hv
  rw [hrecipes] at hr
  exact Shop.priced_of_mem_recipes hr

/-- Two markets have the same totals and rules, and both show priced recipes. -/
structure Kept (k : Shopkeeper) (q : Pick) (m m' : Market) : Prop where
  total : m'.totalOf q = m.totalOf q
  settings : m'.exchange.settings = m.exchange.settings
  priced : m'.Priced k

theorem Kept.refl (hp : m.Priced k) : m.Kept k q m := ⟨rfl, rfl, hp⟩

theorem Kept.trans {m'' : Market} (h : m.Kept k q m') (h' : m'.Kept k q m'') : m.Kept k q m'' :=
  ⟨h'.total.trans h.total, h'.settings.trans h.settings, h'.priced⟩

theorem Priced.set {u : Visitor} (h : m.Priced k)
    (hu : u.window.Priced m.exchange.settings.currency k.shop) :
    ∀ v ∈ m.visitors.set i u, v.window.Priced m.exchange.settings.currency k.shop :=
  forall_mem_set h hu i

theorem sum_set_visitor (q : Pick) (u : Visitor) (hv : m.visitors[i]? = some v) :
    ((m.visitors.set i u).map (Visitor.totalOf q)).sum + v.totalOf q =
      (m.visitors.map (Visitor.totalOf q)).sum + u.totalOf q :=
  sum_map_set (Visitor.totalOf q) u hv

theorem answer_kept (hq : KindOnly q) (hk : k.shop.Keeps m.exchange.settings.currency q)
    (hp : m.Priced k) (hv : m.visitors[i]? = some v) :
    m.Kept k q (m.answer k i v g listener) := by
  rcases h : m.exchange.handle v.id k g (m.sceneFor v listener) with ⟨outcome, exchange, after⟩
  have hvp := hp v (List.mem_of_getElem? hv)
  have hset := Exchange.settings_handle h
  obtain ⟨htotal, hafter⟩ := (Exchange.steps_handle h).keeps hq hk hvp
  unfold answer
  rw [h]
  refine ⟨?_, hset, ?_⟩
  · have hsum := sum_set_visitor q
      { v with window := after.window, inventory := after.inventory } hv
    simp only [Scene.totalOf, sceneFor, Visitor.totalOf, totalOf] at htotal hsum ⊢
    omega
  · unfold Priced
    rw [hset]
    exact hp.set hafter

theorem step_kept (hq : KindOnly q) (hk : k.shop.Keeps m.exchange.settings.currency q)
    (hp : m.Priced k) (a : Act) : m.Kept k q (m.step k a) := by
  cases a with
  | gesture i g listener =>
    cases hv : m.visitors[i]? with
    | none => simpa only [step, hv] using Kept.refl hp
    | some v => simpa only [step, hv] using answer_kept hq hk hp hv
  | container locked unloaded =>
    refine ⟨?_, rfl, hp⟩
    have hc : contentsOf (m.container.map fun c => { c with locked, unloaded }) =
        contentsOf m.container := by
      cases m.container <;> rfl
    simp only [totalOf, step, hc]
  | inventory i locked =>
    cases hv : m.visitors[i]? with
    | none => simpa only [step, hv] using Kept.refl hp
    | some v =>
      simp only [step, hv]
      refine ⟨?_, rfl, hp.set (hp v (List.mem_of_getElem? hv))⟩
      have hsum := sum_set_visitor q { v with inventory := { v.inventory with locked } } hv
      exact congrArg (· + _) (Nat.add_right_cancel hsum)

theorem run_kept (hq : KindOnly q) (hk : k.shop.Keeps m.exchange.settings.currency q)
    (hp : m.Priced k) (acts : List Act) : m.Kept k q (m.run k acts) := by
  induction acts generalizing m with
  | nil => exact Kept.refl hp
  | cons a acts ih =>
    have hstep := step_kept hq hk hp a
    exact hstep.trans (ih (hstep.settings ▸ hk) hstep.priced)

/-- Whatever happens in a market keeps the amount of every kind of goods: of everything for a
trading shop, and of everything but the item types of the currency for a shop that sells or buys. -/
theorem total_run (k : Shopkeeper) (m : Market) (hopen : m.Opened k) (acts : List Act) (κ : Kind)
    (hκ : k.shop.kind = .trading ∨ (k.shop.kind = .selling ∨ k.shop.kind = .buying) ∧
      κ.item ∉ m.exchange.settings.currency.types) :
    (m.run k acts).totalOf (ofKind κ) = m.totalOf (ofKind κ) :=
  (run_kept (kindOnly_ofKind κ) (Shop.keeps_ofKind hκ) hopen.priced acts).total

def diamondChest : Container := { contents := [some (.plain "diamond" 2), none] }

def diamondVisitor (n : Nat) : Visitor where
  id := .ofNat n
  window := (Window.ofRecipes (.ofNat n)
    (Session.diamondStall.recipes Currency.standard (some diamondChest)).1).place
      { slot1 := some (.plain "emerald" 5) }
  inventory := {}

def diamondMarket : Market where
  exchange :=
    (Exchange.openSession { settings := {} } { id := .ofNat 1, name := "first" }).openSession
      { id := .ofNat 2, name := "second" }
  visitors := [diamondVisitor 1, diamondVisitor 2]
  container := some diamondChest
  ids := .ofNat

/-- The first visitor takes a diamond. The second one tries it with a locked chest, with a listener
who denies it, and at last with success. -/
def diamondActs : List Act :=
  let pickup := { slot := resultSlot, kind := .pickupAll, timestamp := 0 }
  [.gesture 0 pickup fun _ _ => .allow, .container true false, .gesture 1 pickup fun _ _ => .allow,
    .container false false, .gesture 1 pickup fun _ _ => .deny, .gesture 1 pickup fun _ _ => .allow]

theorem total_run_diamondMarket :
    diamondMarket.Opened Session.diamondStall ∧
      (diamondMarket.run Session.diamondStall diamondActs).visitors.map (·.inventory.cursor) =
        [some (.plain "diamond" 1), some (.plain "diamond" 1)] ∧
      (diamondMarket.run Session.diamondStall diamondActs).totalOf (ofKind ⟨"diamond", {}⟩) =
        diamondMarket.totalOf (ofKind ⟨"diamond", {}⟩) := by
  have hopen : diamondMarket.Opened Session.diamondStall := by
    rintro v hv
    obtain rfl | rfl : v = diamondVisitor 1 ∨ v = diamondVisitor 2 := by
      simpa [diamondMarket] using hv
    all_goals exact ⟨some diamondChest, rfl⟩
  exact ⟨hopen, by decide, total_run _ _ hopen _ _ (Or.inr ⟨Or.inl rfl, by decide⟩)⟩

end Market

end Bazaar
