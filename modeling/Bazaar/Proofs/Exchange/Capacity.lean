import Bazaar.Proofs.Exchange.Market
import Bazaar.Proofs.Session.Terms
import Bazaar.Proofs.Shop.Bounded

/-! # The capacity of slots

Trades never overfill a slot. Whatever visitors do in a market whose shop gives bounded stacks, the
stacks in the container, in the storages and on the cursors stay bounded, no slot comes or goes, and
the offered slots only lose items.
-/

namespace Bazaar

open Slots

variable {i i' : Inventory} {result : Stack} {payout : Payout} {k : Shopkeeper}
  {settings : Settings} {t : Trade} {scene mid scene' : Scene Container}
  {container container' : Option Container}

/-! ## Offered slots -/

/-- A slot keeps a part of its stack or nothing. -/
def Slots.Shrinks (before after : Option Stack) : Prop :=
  ∀ s, after = some s → ∃ b, before = some b ∧ s = b.withAmount s.amount ∧ s.amount ≤ b.amount

theorem Slots.Shrinks.refl (slot : Option Stack) : Shrinks slot slot :=
  fun s hs => ⟨s, hs, rfl, Nat.le_refl _⟩

theorem Slots.Shrinks.trans {a b c : Option Stack} (h : Shrinks a b) (h' : Shrinks b c) :
    Shrinks a c := by
  intro s hs
  obtain ⟨u, hu, hsu, hle⟩ := h' s hs
  obtain ⟨v, hv, huv, hle'⟩ := h u hu
  refine ⟨v, hv, ?_, Nat.le_trans hle hle'⟩
  rw [hsu, huv]
  rfl

theorem Slots.Loses.shrinks {before after : Option Stack} {n : Amount} (h : Loses before after n) :
    Shrinks before after := by
  rintro s rfl
  obtain ⟨b, rfl, hs⟩ := h.rest s rfl
  have hamount := h.amount
  rw [amountIn_some, amountIn_some] at hamount
  exact ⟨b, rfl, hs, Nat.le.intro hamount⟩

structure Offered.Shrinks (before after : Offered) : Prop where
  slot1 : Slots.Shrinks before.slot1 after.slot1
  slot2 : Slots.Shrinks before.slot2 after.slot2

theorem Offered.Shrinks.refl (o : Offered) : o.Shrinks o := ⟨.refl _, .refl _⟩

theorem Offered.Shrinks.trans {a b c : Offered} (h : a.Shrinks b) (h' : b.Shrinks c) :
    a.Shrinks c :=
  ⟨h.slot1.trans h'.slot1, h.slot2.trans h'.slot2⟩

theorem Offered.shrinks_of_arrange {o o' : Offered} {order : Order} {a b a' b' : Option Stack}
    (h : o.arrange order = (a, b)) (h' : o'.arrange order = (a', b')) (ha : Slots.Shrinks a a')
    (hb : Slots.Shrinks b b') : o.Shrinks o' := by
  cases order with
  | asIs =>
    obtain ⟨rfl, rfl⟩ := Prod.mk.inj h
    obtain ⟨rfl, rfl⟩ := Prod.mk.inj h'
    exact ⟨ha, hb⟩
  | swapped =>
    obtain ⟨rfl, rfl⟩ := Prod.mk.inj h
    obtain ⟨rfl, rfl⟩ := Prod.mk.inj h'
    exact ⟨hb, ha⟩

theorem Scene.Traded.shrinks (h : scene.Traded k settings payout t scene') :
    scene.window.offered.Shrinks scene'.window.offered := by
  obtain ⟨ha, hp⟩ := Window.paid_of_select h.selected
  have hleft : scene'.window.offered.arrange t.order =
      (nonEmpty? (t.deal.first.decreasedBy t.deal.recipe.first.amount),
        nonEmpty? (t.deal.second.bind (·.decreasedBy t.deal.recipe.secondAmount))) := by
    rw [h.offered, Offered.arrange_nonEmpty?, Trade.arrange_remaining]
  exact Offered.shrinks_of_arrange ha hleft (Deal.loses_first hp).shrinks
    (Deal.loses_second hp).shrinks

/-! ## Inventories -/

theorem BoundedIn.nonEmpty? {slot : Option Stack} (h : BoundedIn slot) :
    BoundedIn (nonEmpty? slot) := by
  intro s hs
  exact h s (nonEmpty?_eq_some_iff.1 hs).1

structure Inventory.Bounded (i : Inventory) : Prop where
  storage : i.storage.Bounded
  cursor : BoundedIn i.cursor

structure Inventory.Steady (i i' : Inventory) : Prop where
  storage : i.storage.Steady i'.storage
  cursor : BoundedIn i.cursor → BoundedIn i'.cursor

theorem Inventory.Steady.refl (i : Inventory) : i.Steady i := ⟨.refl _, id⟩

theorem Inventory.Steady.trans {i'' : Inventory} (h : i.Steady i') (h' : i'.Steady i'') : i.Steady i'' :=
  ⟨h.storage.trans h'.storage, fun hc => h'.cursor (h.cursor hc)⟩

theorem Inventory.steady_pay (hr : result.Bounded) (h : i.Payable result payout)
    (hp : i.pay payout = .ok i') : i.Steady i' := by
  cases h with
  | cursor h =>
    rcases cursorPayout?_eq_some h with ⟨-, rfl⟩ | ⟨c, -, -, hfit, rfl⟩
    · obtain ⟨-, rfl⟩ := setCursor_eq_ok_iff.1 hp
      exact ⟨.refl _, fun _ => (boundedIn_some.2 hr).nonEmpty?⟩
    · obtain ⟨-, rfl⟩ := setCursor_eq_ok_iff.1 hp
      refine ⟨.refl _, fun _ => (boundedIn_some.2 ?_).nonEmpty?⟩
      simp only [Stack.Bounded, Stack.withAmount, Amount.val_add]
      omega
  | hotbar button h =>
    obtain ⟨index, hfree, rfl⟩ := hotbarPayout?_eq_some h
    rw [pay, if_pos (List.getElem?_eq_some_iff.1 hfree).1] at hp
    obtain ⟨-, rfl⟩ := setStorage_eq_ok_iff.1 hp
    exact ⟨steady_set _ (boundedIn_some.2 hr), id⟩
  | storage h =>
    obtain ⟨-, rfl⟩ := setStorage_eq_ok_iff.1 hp
    have hsteady := steady_addInClientOrder result i.storage
    rw [h] at hsteady
    exact ⟨hsteady, id⟩

/-! ## Scenes -/

def SteadyContents (container container' : Option Container) : Prop :=
  Option.Rel Slots.Steady (contentsOf container) (contentsOf container')

theorem SteadyContents.of_eq (h : contentsOf container' = contentsOf container) :
    SteadyContents container container' := by
  unfold SteadyContents
  rw [h]
  cases contentsOf container with
  | none => exact .none
  | some slots => exact .some (.refl slots)

theorem SteadyContents.trans {container'' : Option Container} (h : SteadyContents container container')
    (h' : SteadyContents container' container'') : SteadyContents container container'' := by
  unfold SteadyContents at h h' ⊢
  generalize contentsOf container = a, contentsOf container' = b, contentsOf container'' = c at *
  cases h with
  | none => exact h'
  | some h =>
    cases h' with
    | some h' => exact .some (h.trans h')

/-- Between two scenes no slot became overfull, came or went, and nothing more was offered. -/
structure Scene.Steady (scene scene' : Scene Container) : Prop where
  offered : scene.window.offered.Shrinks scene'.window.offered
  inventory : scene.inventory.Steady scene'.inventory
  container : SteadyContents scene.container scene'.container

def Window.Bounded (w : Window) : Prop := ∀ r ∈ w.recipes, r.result.Bounded

namespace Scene

theorem Steady.refl (scene : Scene Container) : scene.Steady scene := ⟨.refl _, .refl _, .of_eq rfl⟩

theorem Steady.trans (h : scene.Steady mid) (h' : mid.Steady scene') : scene.Steady scene' where
  offered := h.offered.trans h'.offered
  inventory := h.inventory.trans h'.inventory
  container := h.container.trans h'.container

theorem Intact.steady (h : scene.Intact scene') : scene.Steady scene' where
  offered := h.window ▸ .refl _
  inventory := h.inventory ▸ .refl _
  container := .of_eq h.contents

theorem Traded.steady (hw : scene.window.Bounded)
    (hpay : ∀ result, scene.window.result = some result → scene.inventory.Payable result payout)
    (h : scene.Traded k settings payout t scene') : scene.Steady scene' := by
  obtain ⟨hmem, hresult⟩ := Window.displayed_of_select h.selected
  constructor
  · exact h.shrinks
  · exact Inventory.steady_pay (hw _ hmem) (hpay _ hresult) h.paid
  · cases hu : k.shop.usesContainer with
    | false => exact .of_eq (congrArg contentsOf (h.idle hu))
    | true =>
      obtain ⟨before, after, hbefore, hstage, hafter⟩ := h.staged hu
      rw [SteadyContents, hbefore, hafter]
      exact .some (Shop.steady_stage hstage)

theorem steady_refresh (scene : Scene Container) (k : Shopkeeper) (settings : Settings)
    (actor : ActorId) : scene.Steady (scene.refresh k settings actor) where
  offered := offered_refresh scene k settings actor ▸ .refl _
  inventory := .refl _
  container := .of_eq (contentsOf_stockOf scene.container)

theorem bounded_refresh (hk : k.shop.Bounded) (hw : scene.window.Bounded) (actor : ActorId) :
    (scene.refresh k settings actor).window.Bounded :=
  forall_mem_refresh (p := fun r => r.result.Bounded) (fun _ hr => hr) hw
    (fun _ hr => hk.of_mem_recipes hr) actor

/-- A step leaves the scene steady and the displayed results bounded. -/
theorem Step.steady (hk : k.shop.Bounded) (h : Step k settings scene scene')
    (hw : scene.window.Bounded) : scene.Steady scene' ∧ scene'.window.Bounded := by
  cases h with
  | attempt hr hp h =>
    rcases Session.attempt_cases h with ⟨-, hi⟩ | ⟨t, -, ht⟩
    · exact ⟨hi.steady, hi.window ▸ hw⟩
    · refine ⟨ht.steady hw fun result hr' => ?_, fun r hmem => hw r (ht.recipes ▸ hmem)⟩
      obtain rfl := Option.some.inj (hr.symm.trans hr')
      exact hp
  | refresh actor => exact ⟨steady_refresh _ _ _ _, bounded_refresh hk hw _⟩

theorem Steps.steady (hk : k.shop.Bounded) (h : Steps k settings scene scene')
    (hw : scene.window.Bounded) : scene.Steady scene' ∧ scene'.window.Bounded := by
  induction h with
  | refl => exact ⟨.refl _, hw⟩
  | tail _ hstep ih =>
    obtain ⟨hsteady, hw'⟩ := hstep.steady hk ih.2
    exact ⟨ih.1.trans hsteady, hw'⟩

end Scene

/-! ## Markets -/

structure Visitor.Steady (v v' : Visitor) : Prop where
  id : v'.id = v.id
  offered : v.window.offered.Shrinks v'.window.offered
  inventory : v.inventory.Steady v'.inventory

theorem Visitor.Steady.refl (v : Visitor) : v.Steady v := ⟨rfl, .refl _, .refl _⟩

theorem Visitor.Steady.trans {v v' v'' : Visitor} (h : v.Steady v') (h' : v'.Steady v'') :
    v.Steady v'' where
  id := h'.id.trans h.id
  offered := h.offered.trans h'.offered
  inventory := h.inventory.trans h'.inventory

namespace Market

variable {m m' m'' : Market} {v u : Visitor} {visitor : Nat} {g : Gesture}
  {listener : List PendingTrade → PendingTrade → Verdict}

/-- All stacks in the container, in the storages of the visitors and on their cursors are
bounded. -/
structure Bounded (m : Market) : Prop where
  container : ∀ slots, contentsOf m.container = some slots → slots.Bounded
  visitors : ∀ v ∈ m.visitors, v.inventory.Bounded

/-- Between two states of a market with the same visitors and the same rules no slot became
overfull, came or went, and nothing more was offered. -/
structure Steady (m m' : Market) : Prop where
  settings : m'.exchange.settings = m.exchange.settings
  container : SteadyContents m.container m'.container
  length : m'.visitors.length = m.visitors.length
  visitors : ∀ (n : Nat) (v' : Visitor), m'.visitors[n]? = some v' →
    ∃ v, m.visitors[n]? = some v ∧ v.Steady v'

theorem Steady.refl (m : Market) : m.Steady m :=
  ⟨rfl, .of_eq rfl, rfl, fun _ v hv => ⟨v, hv, .refl v⟩⟩

theorem Steady.trans (h : m.Steady m') (h' : m'.Steady m'') : m.Steady m'' where
  settings := h'.settings.trans h.settings
  container := h.container.trans h'.container
  length := h'.length.trans h.length
  visitors := by
    intro n v'' hv''
    obtain ⟨v', hv', hsteady'⟩ := h'.visitors n v'' hv''
    obtain ⟨v, hv, hsteady⟩ := h.visitors n v' hv'
    exact ⟨v, hv, hsteady.trans hsteady'⟩

theorem Steady.bounded (h : m.Steady m') (hm : m.Bounded) : m'.Bounded where
  container := by
    intro slots hslots
    have hrel := h.container
    rw [SteadyContents, hslots] at hrel
    cases hbefore : contentsOf m.container with
    | none =>
      rw [hbefore] at hrel
      cases hrel
    | some before =>
      rw [hbefore] at hrel
      cases hrel with
      | some hsteady => exact hsteady.bounded (hm.container before hbefore)
  visitors := by
    intro v' hv'
    obtain ⟨n, hn⟩ := List.mem_iff_getElem?.1 hv'
    obtain ⟨v, hv, hsteady⟩ := h.visitors n v' hn
    have hb := hm.visitors v (List.mem_of_getElem? hv)
    exact ⟨hsteady.inventory.storage.bounded hb.storage, hsteady.inventory.cursor hb.cursor⟩

def Displays (m : Market) : Prop := ∀ v ∈ m.visitors, v.window.Bounded

theorem Opened.displays (hk : k.shop.Bounded) (h : m.Opened k) : m.Displays := by
  intro v hv r hr
  obtain ⟨container, hrecipes⟩ := h v hv
  rw [hrecipes] at hr
  exact hk.of_mem_recipes hr

theorem steady_set (hv : m.visitors[visitor]? = some v) (h : v.Steady u) (n : Nat) (v' : Visitor)
    (hv' : (m.visitors.set visitor u)[n]? = some v') :
    ∃ v, m.visitors[n]? = some v ∧ v.Steady v' := by
  by_cases hn : visitor = n
  · subst hn
    have hlt := (List.getElem?_eq_some_iff.1 hv).1
    rw [List.getElem?_set_self hlt] at hv'
    obtain rfl := Option.some.inj hv'
    exact ⟨v, hv, h⟩
  · rw [List.getElem?_set_ne hn] at hv'
    exact ⟨v', hv', .refl v'⟩

theorem answer_steady (hk : k.shop.Bounded) (hm : m.Displays)
    (hv : m.visitors[visitor]? = some v) :
    m.Steady (m.answer k visitor v g listener) ∧ (m.answer k visitor v g listener).Displays := by
  rcases h : m.exchange.handle v.id k g (m.sceneFor v listener) with ⟨outcome, exchange, after⟩
  have hvm := hm v (List.mem_of_getElem? hv)
  obtain ⟨hsteady, hafter⟩ := (Exchange.steps_handle h).steady hk hvm
  unfold answer
  rw [h]
  constructor
  · constructor
    · exact Exchange.settings_handle h
    · exact hsteady.container
    · exact List.length_set
    · exact steady_set hv ⟨rfl, hsteady.offered, hsteady.inventory⟩
  · exact forall_mem_set hm hafter visitor

theorem step_steady (hk : k.shop.Bounded) (hm : m.Displays) (a : Act) :
    m.Steady (m.step k a) ∧ (m.step k a).Displays := by
  cases a with
  | gesture visitor g listener =>
    cases hv : m.visitors[visitor]? with
    | none => simpa only [step, hv] using ⟨Steady.refl m, hm⟩
    | some v => simpa only [step, hv] using answer_steady hk hm hv
  | container locked unloaded =>
    refine ⟨⟨rfl, .of_eq ?_, rfl, (Steady.refl m).visitors⟩, hm⟩
    simp only [step]
    cases m.container <;> rfl
  | inventory visitor locked =>
    cases hv : m.visitors[visitor]? with
    | none => simpa only [step, hv] using ⟨Steady.refl m, hm⟩
    | some v =>
      simp only [step, hv]
      constructor
      · exact ⟨rfl, .of_eq rfl, List.length_set, steady_set hv ⟨rfl, .refl _, .refl _, id⟩⟩
      · apply forall_mem_set hm
        exact hm v (List.mem_of_getElem? hv)

theorem run_steady (hk : k.shop.Bounded) (hm : m.Displays) (acts : List Act) :
    m.Steady (m.run k acts) := by
  induction acts generalizing m with
  | nil => exact .refl m
  | cons a acts ih =>
    obtain ⟨hsteady, hdisplays⟩ := step_steady hk hm a
    exact hsteady.trans (ih hdisplays)

/-- Where the shop gives bounded stacks and the visitors have opened their windows, bounded stacks
stay bounded whatever happens, in the container, in the storages and on the cursors. The container
and the storages keep the number of their slots, and the offered slots never grow. -/
theorem bounded_run (k : Shopkeeper) (hk : k.shop.Bounded) (m : Market) (hopen : m.Opened k)
    (hm : m.Bounded) (acts : List Act) :
    (m.run k acts).Bounded ∧ m.Steady (m.run k acts) := by
  have hsteady := run_steady hk (hopen.displays hk) acts
  exact ⟨hsteady.bounded hm, hsteady⟩

def tightStack (item : String) (amount maxSize : Amount) : Stack :=
  { kind := { item }, amount, maxSize }

/-- The diamond stall earns emeralds next to a stack of them that has room for one more. -/
def tightChest : Container where
  contents := [some (.plain "diamond" 2), some (tightStack "emerald" 15 16), none]

def tightMarket : Market :=
  { diamondMarket with
    visitors := [{ diamondVisitor 1 with
      inventory := {
        storage := [some (tightStack "diamond" 1 1), none]
        cursor := some (tightStack "diamond" 1 1) } }]
    container := some tightChest }

def tightActs : List Act :=
  [.gesture 0 { slot := resultSlot, kind := .pickupAll, timestamp := 0 } fun _ _ => .allow,
    .gesture 0 { slot := resultSlot, kind := .hotbarSwap, timestamp := 9, button := some 1 }
      fun _ _ => .allow]

theorem bounded_run_tightMarket :
    Session.diamondStall.shop.Bounded ∧ tightMarket.Opened Session.diamondStall ∧
      tightMarket.Bounded ∧
      contentsOf (tightMarket.run Session.diamondStall tightActs).container = some
        [some (.plain "diamond" 1), some (tightStack "emerald" 16 16),
          some (.plain "emerald" 2)] ∧
      (tightMarket.run Session.diamondStall tightActs).visitors.map (·.inventory.storage) =
        [[some (tightStack "diamond" 1 1), some (.plain "diamond" 1)]] ∧
      (tightMarket.run Session.diamondStall tightActs).Bounded ∧
      tightMarket.Steady (tightMarket.run Session.diamondStall tightActs) := by
  have hshop : Session.diamondStall.shop.Bounded := by
    intro o ho
    obtain rfl := List.mem_singleton.1 ho
    decide
  have hopen : tightMarket.Opened Session.diamondStall := by
    intro v hv
    obtain rfl := List.mem_singleton.1 hv
    exact ⟨some diamondChest, rfl⟩
  have hbounded : tightMarket.Bounded := by
    constructor
    · intro slots hslots
      obtain rfl := Option.some.inj hslots
      decide
    · intro v hv
      obtain rfl := List.mem_singleton.1 hv
      exact ⟨by decide, by decide⟩
  exact ⟨hshop, hopen, hbounded, by decide, by decide, bounded_run _ hshop _ hopen hbounded _⟩

end Market

end Bazaar
