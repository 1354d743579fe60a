import Bazaar.Proofs.Exchange.Market
import Bazaar.Proofs.Exchange.Play
import Bazaar.Proofs.Session.Relabelled

/-! # Crowds

In a crowd everybody deals at a stand of their own, and the stands share nothing but the exchange.
What becomes of one actor is decided by that actor's own acts, however those of the others are mixed
in between.
-/

namespace Bazaar

variable {σ : Type} {ρ : TradeId → TradeId → Prop} {ids ids' : Nat → TradeId}
  {before after twin : Scene σ} {outcome : GestureOutcome}

/-! ## Stands -/

/-- A shop with its container and the actor who deals there, and what has happened so far. -/
structure Stand (σ : Type) where
  keeper : Shopkeeper
  container : Option σ
  window : Window
  inventory : Inventory
  listener : List PendingTrade → PendingTrade → Verdict
  journal : Journal := {}
  /-- The outcomes of the actor's gestures, oldest first. -/
  outcomes : List GestureOutcome := []

namespace Stand

variable {stand twinStand : Stand σ}

def scene (stand : Stand σ) (ids : Nat → TradeId) : Scene σ :=
  { window := stand.window, inventory := stand.inventory, container := stand.container
    listener := stand.listener, ids, journal := stand.journal }

def answered (stand : Stand σ) (outcome : GestureOutcome) (after : Scene σ) : Stand σ :=
  { stand with
    container := after.container
    window := after.window
    inventory := after.inventory
    journal := after.journal
    outcomes := stand.outcomes ++ [outcome] }

/-- Two stands are the same up to the ids of trades, which their listeners do not go by. -/
structure Alike (ρ : TradeId → TradeId → Prop) (stand twin : Stand σ) : Prop where
  keeper : twin.keeper = stand.keeper
  container : twin.container = stand.container
  window : twin.window = stand.window
  inventory : twin.inventory = stand.inventory
  listener : ∀ {reviews reviews' t t'}, List.Forall₂ (PendingTrade.Alike ρ) reviews reviews' →
    t.Alike ρ t' → twin.listener reviews' t' = stand.listener reviews t
  journal : stand.journal.Alike ρ twin.journal
  outcomes : twin.outcomes = stand.outcomes

theorem alike_self (stand : Stand σ) : stand.Alike (· = ·) stand where
  keeper := rfl
  container := rfl
  window := rfl
  inventory := rfl
  listener := (stand.scene fun _ => .ofNat 0).relabelled_self.listener
  journal := Journal.alike_self (fun _ => rfl) _
  outcomes := rfl

theorem Alike.scene (h : stand.Alike ρ twinStand) (hids : ∀ n, ρ (ids n) (ids' n)) :
    (stand.scene ids).Relabelled ρ (twinStand.scene ids') where
  alike := ⟨h.window, h.inventory, hids, h.journal⟩
  container := h.container
  listener := h.listener

theorem Alike.answered (h : stand.Alike ρ twinStand) (outcome : GestureOutcome)
    (hr : after.Relabelled ρ twin) :
    (stand.answered outcome after).Alike ρ (twinStand.answered outcome twin) where
  keeper := h.keeper
  container := hr.container
  window := hr.alike.window
  inventory := hr.alike.inventory
  listener := h.listener
  journal := hr.alike.journal
  outcomes := congrArg (· ++ [outcome]) h.outcomes

end Stand

/-! ## Own sessions -/

namespace Exchange

variable {k : Shopkeeper} {g : Gesture} {x x' y : Exchange} {id other : ActorId}

theorem sessions_withSession (x : Exchange) (id : ActorId) (s : Option Session) :
    (x.withSession id s).sessions id = s :=
  if_pos rfl

theorem sessions_withSession_of_ne (x : Exchange) (s : Option Session) (h : other ≠ id) :
    (x.withSession id s).sessions other = x.sessions other :=
  if_neg h

variable [Storage σ]

theorem sessions_handle_of_ne (h : x.handle id k g before = (outcome, x', after))
    (hne : other ≠ id) : x'.sessions other = x.sessions other := by
  rcases handle_cases h with ⟨-, rfl, -⟩ | ⟨s, s', -, rfl⟩
  · rfl
  · exact sessions_withSession_of_ne x _ hne

theorem handle_congr (hset : y.settings = x.settings) (hs : y.sessions id = x.sessions id)
    (h : x.handle id k g before = (outcome, x', after)) :
    ∃ y', y.handle id k g before = (outcome, y', after) ∧ y'.settings = x'.settings ∧
      y'.sessions id = x'.sessions id := by
  unfold handle at h ⊢
  rw [hset, hs]
  split at h
  case h_1 =>
    cases h
    exact ⟨y, rfl, hset, hs⟩
  case h_2 s _ =>
    dsimp only
    split at h
    case isTrue hclosed =>
      rw [if_pos hclosed]
      cases h
      exact ⟨y, rfl, hset, hs⟩
    case isFalse hopen =>
      rw [if_neg hopen]
      rcases hh : s.handle k x.settings g before with ⟨outcome₁, s₁, after₁⟩
      rw [hh] at h
      cases h
      refine ⟨_, rfl, hset, ?_⟩
      rw [sessions_withSession, sessions_withSession]

end Exchange

/-! ## Crowds -/

/-- An exchange with a stand for every actor. -/
structure Crowd (σ : Type) where
  exchange : Exchange
  stands : ActorId → Stand σ

namespace Crowd

variable {c c' d : Crowd σ} {id : ActorId}

/-- What an actor does in a crowd: make a gesture, for which trade ids are supplied, or start or end
a session. -/
inductive Act
  | gesture (id : ActorId) (g : Gesture) (ids : Nat → TradeId)
  | opening (actor : Actor)
  | closing (id : ActorId)

namespace Act

def actor : Act → ActorId
  | gesture id _ _ => id
  | opening actor => actor.id
  | closing id => id

inductive Alike (ρ : TradeId → TradeId → Prop) : Act → Act → Prop
  | gesture (id : ActorId) (g : Gesture) {ids ids' : Nat → TradeId} (h : ∀ n, ρ (ids n) (ids' n)) :
      Alike ρ (.gesture id g ids) (.gesture id g ids')
  | opening (actor : Actor) : Alike ρ (.opening actor) (.opening actor)
  | closing (id : ActorId) : Alike ρ (.closing id) (.closing id)

theorem alike_self (a : Act) : a.Alike (· = ·) a := by
  cases a with
  | gesture id g ids => exact .gesture id g fun _ => rfl
  | opening actor => exact .opening actor
  | closing id => exact .closing id

end Act

variable {a a' : Act} {acts acts' : List Act}

def own (id : ActorId) (acts : List Act) : List Act := acts.filter (·.actor = id)

/-- One actor cannot tell two crowds apart, but for the ids of trades. -/
structure Alike (ρ : TradeId → TradeId → Prop) (id : ActorId) (c c' : Crowd σ) : Prop where
  settings : c'.exchange.settings = c.exchange.settings
  session : c'.exchange.sessions id = c.exchange.sessions id
  stand : (c.stands id).Alike ρ (c'.stands id)

theorem alike_self (c : Crowd σ) (id : ActorId) : c.Alike (· = ·) id c :=
  ⟨rfl, rfl, (c.stands id).alike_self⟩

structure Same (id : ActorId) (c c' : Crowd σ) : Prop where
  settings : c'.exchange.settings = c.exchange.settings
  session : c'.exchange.sessions id = c.exchange.sessions id
  stand : c'.stands id = c.stands id

theorem Same.trans (h : c.Same id c') (h' : c'.Same id d) : c.Same id d where
  settings := h'.settings.trans h.settings
  session := h'.session.trans h.session
  stand := h'.stand.trans h.stand

theorem Alike.left (h : c.Alike ρ id c') (hs : c.Same id d) : d.Alike ρ id c' where
  settings := h.settings.trans hs.settings.symm
  session := h.session.trans hs.session.symm
  stand := hs.stand ▸ h.stand

theorem Alike.right (h : c.Alike ρ id c') (hs : c'.Same id d) : c.Alike ρ id d where
  settings := hs.settings.trans h.settings
  session := hs.session.trans h.session
  stand := hs.stand ▸ h.stand

variable [Storage σ]

def answer (c : Crowd σ) (id : ActorId) (g : Gesture) (ids : Nat → TradeId) : Crowd σ :=
  let stand := c.stands id
  let (outcome, exchange, after) := c.exchange.handle id stand.keeper g (stand.scene ids)
  { exchange, stands := Function.update c.stands id (stand.answered outcome after) }

def step (c : Crowd σ) : Act → Crowd σ
  | .gesture id g ids => c.answer id g ids
  | .opening actor => { c with exchange := c.exchange.openSession actor }
  | .closing id => { c with exchange := c.exchange.closeSession id }

def run (c : Crowd σ) (acts : List Act) : Crowd σ := acts.foldl step c

/-! ## Acts of others -/

theorem same_step (h : a.actor ≠ id) : c.Same id (c.step a) := by
  cases a with
  | gesture other g ids =>
    rcases hg : c.exchange.handle other (c.stands other).keeper g ((c.stands other).scene ids) with
      ⟨outcome, x', after⟩
    simp only [step, answer, hg]
    constructor
    · exact Exchange.settings_handle hg
    · exact Exchange.sessions_handle_of_ne hg h.symm
    · exact Function.update_of_ne h.symm _ _
  | opening actor => exact ⟨rfl, Exchange.sessions_withSession_of_ne _ _ h.symm, rfl⟩
  | closing other => exact ⟨rfl, Exchange.sessions_withSession_of_ne _ _ h.symm, rfl⟩

theorem same_run (h : ∀ a ∈ acts, a.actor ≠ id) : c.Same id (c.run acts) := by
  induction acts generalizing c with
  | nil => exact ⟨rfl, rfl, rfl⟩
  | cons a acts ih =>
    rw [List.forall_mem_cons] at h
    exact (same_step h.1).trans (ih h.2)

/-! ## Own acts -/

theorem Alike.answer (h : c.Alike ρ id c') (g : Gesture) (hids : ∀ n, ρ (ids n) (ids' n)) :
    (c.answer id g ids).Alike ρ id (c'.answer id g ids') := by
  rcases hg : c.exchange.handle id (c.stands id).keeper g ((c.stands id).scene ids) with
    ⟨outcome, x', after⟩
  have hparallel : c.exchange.Parallel id (c.stands id).keeper ρ
      (Scene.Relabelled ρ : Scene σ → Scene σ → Prop) :=
    fun s _ => Session.parallel_relabelled _ _ s.actor ρ
  obtain ⟨-, twin, htwin, hr⟩ := hparallel.handle (h.stand.scene hids) hg
  obtain ⟨y', hy, hset, hs⟩ := Exchange.handle_congr h.settings h.session htwin
  simp only [Crowd.answer, hg, h.stand.keeper, hy]
  refine ⟨hset, hs, ?_⟩
  simpa only [Function.update_self] using h.stand.answered outcome hr

theorem Alike.step (h : c.Alike ρ id c') (ha : a.Alike ρ a') (hid : a.actor = id) :
    (c.step a).Alike ρ id (c'.step a') := by
  cases ha with
  | gesture other g hids =>
    obtain rfl : other = id := hid
    exact h.answer g hids
  | opening actor =>
    obtain rfl : actor.id = id := hid
    refine ⟨h.settings, ?_, h.stand⟩
    simp only [Crowd.step, Exchange.openSession, Exchange.sessions_withSession, h.settings]
  | closing other =>
    obtain rfl : other = id := hid
    refine ⟨h.settings, ?_, h.stand⟩
    simp only [Crowd.step, Exchange.closeSession, Exchange.sessions_withSession]

/-- By induction on one list of acts. An own act in it has its counterpart in the other list behind
acts of others, and those can be passed over on both sides. -/
theorem alike_run (h : c.Alike ρ id c')
    (hacts : List.Forall₂ (Act.Alike ρ) (own id acts) (own id acts')) :
    (c.run acts).Alike ρ id (c'.run acts') := by
  induction acts generalizing c c' acts' with
  | nil =>
    have hothers : ∀ a ∈ acts', a.actor ≠ id := by
      simpa [own, List.filter_eq_nil_iff] using List.forall₂_nil_left_iff.1 hacts
    exact h.right (same_run hothers)
  | cons a acts ih =>
    by_cases hid : a.actor = id
    · rw [own, List.filter_cons_of_pos (by simpa using hid)] at hacts
      obtain ⟨a', rest, ha, hrest, hown⟩ := List.forall₂_cons_left_iff.1 hacts
      obtain ⟨pre, post, rfl, hpre, -, rfl⟩ := List.filter_eq_cons_iff.1 hown
      have hothers : ∀ a ∈ pre, a.actor ≠ id := by simpa using hpre
      rw [run, run, List.foldl_cons, List.foldl_append, List.foldl_cons]
      exact ih ((h.right (same_run hothers)).step ha hid) hrest
    · rw [own, List.filter_cons_of_neg (by simpa using hid)] at hacts
      exact ih (h.left (same_step hid)) hacts

/-- An actor who does the same in two runs is answered and told the same and ends up with the same
session, window, inventory and container. Whatever the others do in between, at their stands or with
their sessions, makes no difference. With other trade ids nothing but these ids is different, if the
actor's listener does not go by them. -/
theorem alike_of_own (c : Crowd σ) (id : ActorId) (acts acts' : List Act) :
    (own id acts = own id acts' → (c.run acts).Alike (· = ·) id (c.run acts')) ∧
      ∀ ρ, c.Alike ρ id c → List.Forall₂ (Act.Alike ρ) (own id acts) (own id acts') →
        (c.run acts).Alike ρ id (c.run acts') := by
  constructor
  · intro hown
    apply alike_run (c.alike_self id)
    rw [← hown]
    exact List.forall₂_same.2 fun a _ => a.alike_self
  · intro ρ hself hacts
    exact alike_run hself hacts

def diamondCrowd : Crowd Container where
  exchange := Market.diamondMarket.exchange
  stands id := {
    keeper := Session.diamondStall
    container := some Market.diamondChest
    window := (Market.diamondVisitor (if id = .ofNat 1 then 1 else 2)).window
    inventory := {}
    listener := fun _ _ => .allow }

def diamondPickup (start : Nat) : Act :=
  .gesture (.ofNat 1) { slot := resultSlot, kind := .pickupAll, timestamp := 0 }
    fun n => .ofNat (start + n)

/-- The second actor takes a diamond between two pickups of the first one. -/
def diamondTurns : List Act :=
  [diamondPickup 10,
    .gesture (.ofNat 2) { slot := resultSlot, kind := .pickupAll, timestamp := 0 } fun _ => .ofNat 90,
    diamondPickup 10]

/-- The second actor starts anew before the pickups of the first one, and leaves between them. -/
def diamondLeave : List Act :=
  [.opening { id := .ofNat 2, name := "again" }, diamondPickup 50, .closing (.ofNat 2),
    diamondPickup 50]

def diamondIds (i j : TradeId) : Prop := ∃ n, i = .ofNat (10 + n) ∧ j = .ofNat (50 + n)

theorem alike_of_own_diamondCrowd :
    ((diamondCrowd.run diamondTurns).stands (.ofNat 1)).outcomes = [.traded 1, .traded 0] ∧
      (diamondCrowd.run diamondTurns).Alike (· = ·) (.ofNat 1)
        (diamondCrowd.run (diamondTurns.tail ++ [diamondPickup 10])) ∧
      ((diamondCrowd.run diamondTurns).stands (.ofNat 1)).journal.events ≠
        ((diamondCrowd.run diamondLeave).stands (.ofNat 1)).journal.events ∧
      (diamondCrowd.run diamondTurns).Alike diamondIds (.ofNat 1)
        (diamondCrowd.run diamondLeave) := by
  have hself : diamondCrowd.Alike diamondIds (.ofNat 1) diamondCrowd := by
    refine ⟨rfl, rfl, ⟨rfl, rfl, rfl, rfl, ?_, ?_, rfl⟩⟩
    · intros
      rfl
    · exact ⟨.nil, .nil, rfl, rfl, rfl⟩
  have hpickup : (diamondPickup 10).Alike diamondIds (diamondPickup 50) :=
    .gesture _ _ fun n => ⟨n, rfl, rfl⟩
  have hleave : List.Forall₂ (Act.Alike diamondIds) (own (.ofNat 1) diamondTurns)
      (own (.ofNat 1) diamondLeave) :=
    .cons hpickup (.cons hpickup .nil)
  refine ⟨by decide, ?_, by decide, ?_⟩
  · exact (alike_of_own _ _ _ _).1 rfl
  · exact (alike_of_own _ _ _ _).2 diamondIds hself hleave

end Crowd

end Bazaar
