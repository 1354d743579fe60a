import Bazaar.Proofs.Exchange.Play
import Bazaar.Proofs.Session.Attempt
import Bazaar.Proofs.Session.Settled

/-! # Empty stacks and the answers of an exchange

An empty stack in the storage of an actor is as good as an empty slot for every gesture but one. A
swap into the hotbar asks for a slot without a stack, where a bulk move finds room in an empty stack
as well. So the swap is lost where an empty stack lies in its slot, and only there.
-/

namespace Bazaar

variable {σ : Type} {ρ : TradeId → TradeId → Prop} {k : Shopkeeper} {id : ActorId}
  {x x' x'' : Exchange} {g : Gesture} {answer answer' : GestureOutcome}
  {scene scene' twin twin' : Scene σ}

theorem Scene.Relabelled.settled (h : scene.Relabelled ρ twin) :
    scene.settled.Relabelled ρ twin.settled :=
  ⟨⟨h.alike.window, congrArg Inventory.settled h.alike.inventory, h.alike.ids, h.alike.journal⟩,
    h.container, h.listener⟩

namespace Exchange

/-- A gesture of an actor on an open window is a swap that an empty stack obstructs. -/
def Obstructs (x : Exchange) (id : ActorId) (g : Gesture) (scene : Scene σ) : Prop :=
  ∃ s, x.sessions id = some s ∧ scene.window.isOpenFor s.actor.id = true ∧
    scene.Obstructs x.settings g

variable [Storage σ]

theorem handle_settled (hfree : ¬ x.Obstructs id g scene)
    (h : x.handle id k g scene = (answer, x', scene')) :
    ∃ twin', x.handle id k g scene.settled = (answer, x', twin') ∧
      twin'.settled = scene'.settled := by
  refine handle_parallel (R := fun scene twin : Scene σ => twin.settled = scene.settled)
    scene.settled_settled (fun s hs => ⟨rfl, fun hopen => ?_⟩) h
  exact Session.handle_settled fun hobstructs => hfree ⟨s, hs, hopen, hobstructs⟩

theorem handle_of_open {s : Session} (hs : x.sessions id = some s)
    (hopen : scene.window.isOpenFor s.actor.id = true) :
    x.handle id k g scene = ((s.handle k x.settings g scene).1,
      x.withSession id (some (s.handle k x.settings g scene).2.1),
      (s.handle k x.settings g scene).2.2) := by
  simp only [Exchange.handle, hs, hopen]
  rfl

theorem handle_of_obstructs (hobstructs : x.Obstructs id g scene)
    (hr : scene.settled.Relabelled ρ twin) (h : x.handle id k g scene = (answer, x', scene'))
    (htwin : x.handle id k g twin = (answer', x'', twin')) :
    answer = .traded 0 ∧ scene' = scene ∧
      twin.journal.events.length < twin'.journal.events.length := by
  obtain ⟨s, hs, hopen, hg⟩ := hobstructs
  have hwindow : twin.window = scene.window := hr.alike.window
  rw [handle_of_open hs hopen, Session.handle_of_obstructs hg] at h
  rw [handle_of_open hs (hwindow ▸ hopen)] at htwin
  cases h
  cases htwin
  have hswap : twin.Swaps x.settings g := ⟨hg.onResult, hg.kind, hwindow ▸ hg.asked⟩
  refine ⟨rfl, rfl, Session.events_swap_lt hswap (fun result => ?_) rfl⟩
  rw [hr.alike.inventory]
  exact (hg.emptyStack.hotbarPayout? result).2

/-- A gesture has the same outcome, tells the same and leaves the same, up to trade ids and empty
stacks in the storage, whether the storage is settled before or not. The one exception is a swap
that an empty stack obstructs: it does nothing, and tells of a trade on the settled storage. -/
theorem settled_storage_unseen_iff (hr : scene.settled.Relabelled ρ twin)
    (h : x.handle id k g scene = (answer, x', scene'))
    (htwin : x.handle id k g twin = (answer', x'', twin')) :
    (answer' = answer ∧ x'' = x' ∧ scene'.settled.Relabelled ρ twin'.settled ↔
      ¬ x.Obstructs id g scene) ∧
    (x.Obstructs id g scene → answer = .traded 0 ∧ scene' = scene ∧
      twin.journal.events.length < twin'.journal.events.length) := by
  refine ⟨⟨?_, ?_⟩, fun hobstructs => handle_of_obstructs hobstructs hr h htwin⟩
  · rintro ⟨-, -, hr'⟩ hobstructs
    obtain ⟨-, rfl, hlt⟩ := handle_of_obstructs hobstructs hr h htwin
    have hbefore := hr.alike.journal.events.length_eq
    have hafter := hr'.alike.journal.events.length_eq
    exact absurd (hbefore.symm.trans hafter) (Nat.ne_of_lt hlt)
  · intro hfree
    -- First the empty stacks are taken out, then the ids are exchanged.
    obtain ⟨mid', hmid, hsettled⟩ := handle_settled hfree h
    have hp : x.Parallel id k ρ (Scene.Relabelled ρ : Scene σ → Scene σ → Prop) :=
      fun s _ => Session.parallel_relabelled k x.settings s.actor ρ
    obtain ⟨-, twin₁, htwin₁, hr₁⟩ := hp.handle hr hmid
    rw [htwin] at htwin₁
    cases htwin₁
    exact ⟨rfl, rfl, hsettled ▸ hr₁.settled⟩

def breadCustomer : Scene Container :=
  { Session.lockedCustomer with inventory := { storage := [some (.plain "bread" 0), none] } }

def breadExchange : Exchange :=
  openSession { settings := {} } { id := .ofNat 1, name := "customer" }

def breadSwap (button : UInt8) (scene : Scene Container) :
    GestureOutcome × Exchange × Scene Container :=
  breadExchange.handle (.ofNat 1) Session.diamondStall
    { slot := resultSlot, kind := .hotbarSwap, timestamp := 0, button := some button } scene

/-- The swap is lost in the slot with the bread, and not in the one beside it. -/
theorem settled_storage_unseen_iff_breadCustomer :
    ((breadSwap 0 breadCustomer).1 = .traded 0 ∧
      (breadSwap 0 breadCustomer).2.2 = breadCustomer ∧
      (breadSwap 0 breadCustomer.settled).1 = .traded 1) ∧
    (breadSwap 1 breadCustomer).1 = .traded 1 ∧
      (breadSwap 1 breadCustomer).2.2.settled.Relabelled (· = ·)
        (breadSwap 1 breadCustomer.settled).2.2.settled := by
  have hr := breadCustomer.settled.relabelled_self
  obtain ⟨-, hlost⟩ := settled_storage_unseen_iff hr
    (rfl : breadSwap 0 breadCustomer = (_, _, _)) (rfl : breadSwap 0 _ = _)
  obtain ⟨hunseen, -⟩ := settled_storage_unseen_iff hr
    (rfl : breadSwap 1 breadCustomer = (_, _, _)) (rfl : breadSwap 1 _ = _)
  have hasked : ∀ why, breadCustomer.window.select breadExchange.settings.comparison ≠
      .idle why := by
    intro why
    cases why <;> decide
  obtain ⟨hanswer, hscene, -⟩ := hlost
    ⟨_, rfl, rfl, ⟨rfl, rfl, hasked⟩, 0, .plain "bread" 0, rfl, by decide, rfl, rfl⟩
  refine ⟨⟨hanswer, hscene, by decide⟩, by decide, (hunseen.2 ?_).2.2⟩
  rintro ⟨_, -, -, -, _, _, ⟨⟩, -, ⟨⟩, -⟩

/-- Empty stacks in the storage are not as good as empty slots for every gesture. -/
theorem exists_swap_lost_to_empty_stack :
    ¬ ∀ (x : Exchange) (id : ActorId) (k : Shopkeeper) (g : Gesture) (scene : Scene Container),
      (x.handle id k g scene.settled).1 = (x.handle id k g scene).1 := by
  intro h
  have hanswer : (breadSwap 0 breadCustomer.settled).1 = (breadSwap 0 breadCustomer).1 :=
    h _ _ _ _ _
  exact absurd hanswer (by decide)

end Exchange

end Bazaar
