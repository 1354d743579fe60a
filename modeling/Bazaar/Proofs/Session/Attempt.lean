import Bazaar.Session.Progress

/-! # What an attempt leaves behind

An attempt either carries out a whole trade or it changes nothing but counters and the journal. The
container is written only for a trade that the listener allowed, and a container that was written
gets its old contents back when the payout is refused.
-/

namespace Bazaar

variable {container container' mid : Option Container} {c c' : Container} {slots : Slots} {n : Nat}
  {e : StorageError} {stock : Option Slots} {k : Shopkeeper} {settings : Settings} {t t' : Trade}
  {payout : Payout} {outcome : Outcome} {s s' : Session} {scene scene' : Scene Container}

def contentsOf (container : Option Container) : Option Slots := container.map (·.contents)

def writesOf (container : Option Container) : Option Nat := container.map (·.writes)

namespace Container

def readMore (n : Nat) (c : Container) : Container := { c with reads := c.reads + n }

theorem write_error (h : c.write slots = (.error e, c')) : c' = c := by
  unfold write at h
  split at h
  · exact (Prod.mk.inj h).2.symm
  · split at h
    · exact (Prod.mk.inj h).2.symm
    · cases h

theorem write_ok_iff :
    c.write slots = (.ok (), c') ↔
      c.unloaded = false ∧ c.locked = false ∧
        c' = { c with contents := slots, writes := c.writes + 1 } := by
  unfold write
  cases c.unloaded <;> cases c.locked <;> simp [eq_comm]

end Container

@[simp] theorem contentsOf_readMore :
    contentsOf (container.map (·.readMore n)) = contentsOf container := by
  cases container <;> rfl

@[simp] theorem writesOf_readMore :
    writesOf (container.map (·.readMore n)) = writesOf container := by
  cases container <;> rfl

def visibleIn (container : Option Container) : Option Slots :=
  container.bind fun c => if c.unloaded then none else some c.contents

theorem stockOf_eq_visibleIn (container : Option Container) :
    stockOf container = (visibleIn container, container.map (·.readMore 1)) := by
  cases container with
  | none => rfl
  | some c =>
    unfold stockOf
    cases hu : c.unloaded <;>
      simp [visibleIn, Storage.read, Container.read, hu, Container.readMore]

@[simp] theorem visibleIn_readMore :
    visibleIn (container.map (·.readMore n)) = visibleIn container := by
  cases container <;> rfl

theorem stockOf_eq (h : stockOf container = (stock, container')) :
    container' = container.map (·.readMore 1) ∧
      ∀ slots, stock = some slots → contentsOf container = some slots := by
  obtain ⟨rfl, rfl⟩ := Prod.mk.inj ((stockOf_eq_visibleIn container).symm.trans h)
  refine ⟨rfl, fun slots hs => ?_⟩
  obtain ⟨c, rfl, hc⟩ := Option.bind_eq_some_iff.1 hs
  split at hc
  · cases hc
  · exact hc

theorem contentsOf_stockOf (container : Option Container) :
    contentsOf (stockOf container).2 = contentsOf container := by
  rcases h : stockOf container with ⟨stock, container'⟩
  rw [(stockOf_eq h).1, contentsOf_readMore]

/-! ## Preparing -/

/-- The contents before the staged effects are those of the container. -/
def Trade.StagedOn (t : Trade) (container : Option Container) : Prop :=
  ∀ staged, t.staged = some staged → contentsOf container = some staged.before

namespace Shopkeeper

/-- Preparing a trade only looks into the container, and not even that without a use for it. -/
theorem prepare_container {result : Except AbortReason Trade}
    (h : k.prepare settings t container = (result, container')) :
    ∃ n, container' = container.map (·.readMore n) ∧ (k.shop.usesContainer = false → n = 0) := by
  have hsame : container = container.map (·.readMore 0) := by cases container <;> rfl
  rw [prepare_eq] at h
  split at h
  · exact ⟨0, (Prod.mk.inj h).2 ▸ hsame, fun _ => rfl⟩
  · split at h
    case isTrue hu =>
      refine ⟨1, ?_, fun hu' => absurd hu (by simp [hu'])⟩
      split at h
      case h_1 hs => exact (Prod.mk.inj h).2 ▸ (stockOf_eq hs).1
      case h_2 hs =>
        split at h <;> exact (Prod.mk.inj h).2 ▸ (stockOf_eq hs).1
    case isFalse =>
      split at h <;> exact ⟨0, (Prod.mk.inj h).2 ▸ hsame, fun _ => rfl⟩

theorem prepare_ok (h : k.prepare settings t container = (.ok t', container')) :
    ∃ staged, t' = { t with staged } ∧ t'.StagedOn container ∧
      (k.shop.usesContainer = false → staged = none) ∧
      (k.shop.usesContainer = true → ∃ before after, staged = some { before, after } ∧
        k.shop.stage settings t.deal before = .ok after) := by
  rw [prepare_eq] at h
  split at h
  · cases h
  split at h
  case isTrue hu =>
    split at h
    · cases h
    case h_2 before mid hs =>
      split at h
      · cases h
      case h_2 after ha =>
        obtain ⟨ht, -⟩ := Prod.mk.inj h
        obtain rfl := Except.ok.inj ht
        refine ⟨some { before, after }, rfl, ?_, by simp [hu], fun _ => ⟨before, after, rfl, ha⟩⟩
        rintro staged hst
        obtain rfl := Option.some.inj hst
        exact (stockOf_eq hs).2 before rfl
  case isFalse hu =>
    split at h
    · cases h
    · obtain ⟨ht, -⟩ := Prod.mk.inj h
      obtain rfl := Except.ok.inj ht
      exact ⟨none, rfl, by simp [Trade.StagedOn], fun _ => rfl, fun hu' => absurd hu' hu⟩

end Shopkeeper

/-! ## Writing -/

namespace Trade

theorem StagedOn.cases (hs : t.StagedOn container) :
    t.staged = none ∨
      ∃ staged c, t.staged = some staged ∧ container = some c ∧ c.contents = staged.before := by
  cases hst : t.staged with
  | none => exact Or.inl rfl
  | some staged =>
    obtain ⟨c, hc, hb⟩ := Option.map_eq_some_iff.1 (hs staged hst)
    exact Or.inr ⟨staged, c, rfl, hc, hb⟩

theorem writeStaged_none (hst : t.staged = none) (f : Staged → Slots)
    (container : Option Container) : t.writeStaged f container = (.ok (), container) := by
  simp [writeStaged, hst]

theorem writeStaged_some {staged : Staged} (hst : t.staged = some staged) (f : Staged → Slots)
    (c : Container) :
    t.writeStaged f (some c) =
      if staged.isChanged then ((c.write (f staged)).1, some (c.write (f staged)).2)
      else (.ok (), some c) := by
  simp only [writeStaged, hst]
  rfl

theorem commitEffects_error (h : t.commitEffects container = (.error e, container')) :
    container' = container := by
  unfold commitEffects at h
  cases hst : t.staged with
  | none => simp [writeStaged_none hst] at h
  | some staged =>
    cases container with
    | none => simp [writeStaged] at h
    | some c =>
      rcases hw : c.write staged.after with ⟨result, c'⟩
      rw [writeStaged_some hst, hw] at h
      split at h
      · obtain ⟨rfl, rfl⟩ := Prod.mk.inj h
        rw [Container.write_error hw]
      · cases h

theorem contentsOf_commitEffects (hs : t.StagedOn container)
    (h : t.commitEffects container = (.ok (), container')) :
    (t.staged = none → container' = container) ∧
      ∀ staged, t.staged = some staged → contentsOf container' = some staged.after := by
  unfold commitEffects at h
  rcases hs.cases with hst | ⟨staged, c, hst, rfl, hb⟩
  · rw [writeStaged_none hst, Prod.mk.injEq] at h
    simp [hst, h.2]
  · simp only [hst, reduceCtorEq, Option.some.injEq, false_implies, forall_eq', true_and]
    rcases hw : c.write staged.after with ⟨result, c'⟩
    rw [writeStaged_some hst, hw] at h
    split at h
    case isTrue =>
      obtain ⟨rfl, rfl⟩ := Prod.mk.inj h
      obtain ⟨-, -, rfl⟩ := Container.write_ok_iff.1 hw
      rfl
    case isFalse hch =>
      obtain rfl := (Prod.mk.inj h).2
      have hba : staged.before = staged.after := by simpa [Staged.isChanged] using hch
      exact congrArg some (hb.trans hba)

/-- Written effects can be taken back: what could be written once can be written again. -/
theorem contentsOf_rollbackEffects (hs : t.StagedOn container)
    (h : t.commitEffects container = (.ok (), mid)) :
    contentsOf (t.rollbackEffects mid).2 = contentsOf container := by
  unfold commitEffects at h
  unfold rollbackEffects
  rcases hs.cases with hst | ⟨staged, c, hst, rfl, hb⟩
  · rw [writeStaged_none hst, Prod.mk.injEq] at h
    rw [writeStaged_none hst, h.2]
  · rcases hw : c.write staged.after with ⟨result, c'⟩
    rw [writeStaged_some hst, hw] at h
    split at h
    case isTrue hch =>
      obtain ⟨rfl, rfl⟩ := Prod.mk.inj h
      obtain ⟨hu, hl, rfl⟩ := Container.write_ok_iff.1 hw
      rw [writeStaged_some hst, if_pos hch]
      simp [Container.write, hu, hl, contentsOf, hb]
    case isFalse hch =>
      obtain rfl := (Prod.mk.inj h).2
      rw [writeStaged_some hst, if_neg hch]

end Trade

/-! ## The two ends of an attempt -/

/-- Nobody has gained or lost anything between two scenes. -/
structure Scene.Intact (scene scene' : Scene Container) : Prop where
  window : scene'.window = scene.window
  inventory : scene'.inventory = scene.inventory
  contents : contentsOf scene'.container = contentsOf scene.container

/-- A trade was carried out between two scenes: the shop has done its part on the contents of its
container, if it uses one, the actor got the payout, and the offered slots keep the rest. -/
structure Scene.Traded (k : Shopkeeper) (settings : Settings) (payout : Payout) (t : Trade)
    (scene scene' : Scene Container) : Prop where
  selected : scene.window.select settings.comparison = .matched t.deal t.order
  idle : k.shop.usesContainer = false → scene'.container = scene.container
  staged : k.shop.usesContainer = true → ∃ before after,
    contentsOf scene.container = some before ∧ k.shop.stage settings t.deal before = .ok after ∧
      contentsOf scene'.container = some after
  paid : scene.inventory.pay payout = .ok scene'.inventory
  recipes : scene'.window.recipes = scene.window.recipes
  offered : scene'.window.offered =
    { slot1 := nonEmpty? t.remaining.slot1, slot2 := nonEmpty? t.remaining.slot2 }

namespace Session

/-- A commit leaves everything intact, or it writes the staged effects and pays. -/
theorem commit_cases (hs : t.StagedOn scene.container)
    (h : commit t payout scene = (outcome, scene')) :
    (∃ reason, outcome = .aborted reason) ∧ scene.Intact scene' ∨
      ∃ mid inventory, t.commitEffects scene.container = (.ok (), mid) ∧
        scene.inventory.pay payout = .ok inventory ∧ outcome = .committed t.committed ∧
        scene'.container = mid ∧ scene'.inventory = inventory ∧
        scene'.window.recipes = scene.window.recipes ∧ scene'.window.offered =
          { slot1 := nonEmpty? t.remaining.slot1, slot2 := nonEmpty? t.remaining.slot2 } := by
  unfold commit at h
  split at h
  case h_1 hc =>
    obtain ⟨rfl, rfl⟩ := Prod.mk.inj h
    exact Or.inl ⟨⟨_, rfl⟩, rfl, rfl, congrArg contentsOf (Trade.commitEffects_error hc)⟩
  case h_2 mid hc =>
    split at h
    case h_1 =>
      obtain ⟨rfl, rfl⟩ := Prod.mk.inj h
      exact Or.inl ⟨⟨_, rfl⟩, rfl, rfl, Trade.contentsOf_rollbackEffects hs hc⟩
    case h_2 inventory hp =>
      obtain ⟨rfl, rfl⟩ := Prod.mk.inj h
      exact Or.inr ⟨mid, inventory, hc, hp, rfl, rfl, rfl, rfl, rfl⟩

theorem reviews_commit (h : commit t payout scene = (outcome, scene')) :
    scene'.journal.reviews = scene.journal.reviews := by
  unfold commit at h
  split at h
  · obtain ⟨-, rfl⟩ := Prod.mk.inj h
    rfl
  · split at h
    all_goals
      obtain ⟨-, rfl⟩ := Prod.mk.inj h
      rfl

theorem carryOut_cases
    (hm : scene.window.select settings.comparison = .matched t.deal t.order)
    (h : carryOut k settings t payout scene = (outcome, scene')) :
    (∃ reason, outcome = .aborted reason) ∧ scene.Intact scene' ∨
      ∃ t', outcome = .committed t'.committed ∧ scene.Traded k settings payout t' scene' := by
  rw [carryOut_eq] at h
  split at h
  case h_1 reason container hp =>
    obtain ⟨rfl, rfl⟩ := Prod.mk.inj h
    obtain ⟨n, rfl, -⟩ := Shopkeeper.prepare_container hp
    exact Or.inl ⟨⟨_, rfl⟩, rfl, rfl, contentsOf_readMore⟩
  case h_2 t' container hp =>
    obtain ⟨n, rfl, hn⟩ := Shopkeeper.prepare_container hp
    obtain ⟨staged, rfl, hon, hnone, hsome⟩ := Shopkeeper.prepare_ok hp
    split at h
    case h_1 hr =>
      obtain ⟨-, rfl⟩ := Prod.mk.inj hr
      obtain ⟨rfl, rfl⟩ := Prod.mk.inj h
      exact Or.inl ⟨⟨_, rfl⟩, rfl, rfl, contentsOf_readMore⟩
    case h_2 hr =>
      obtain ⟨-, rfl⟩ := Prod.mk.inj hr
      have hon' : Trade.StagedOn { t with staged } (scene.container.map (·.readMore n)) :=
        fun s hs => contentsOf_readMore.trans (hon s hs)
      rcases commit_cases hon' h with
        ⟨ha, hw, hi, hc⟩ | ⟨mid, inventory, hc, hpay, hout, rfl, rfl, hr, ho⟩
      · exact Or.inl ⟨ha, hw, hi, hc.trans contentsOf_readMore⟩
      · refine Or.inr ⟨_, hout, hm, fun hu => ?_, fun hu => ?_, hpay, hr, ho⟩
        · rw [(Trade.contentsOf_commitEffects hon' hc).1 (hnone hu), hn hu]
          cases scene.container <;> rfl
        · obtain ⟨before, after, rfl, hst⟩ := hsome hu
          exact ⟨before, after, hon _ rfl, hst,
            (Trade.contentsOf_commitEffects hon' hc).2 _ rfl⟩

/-- A container is written only after the listener has allowed the trade. -/
theorem carryOut_writes (h : carryOut k settings t payout scene = (outcome, scene'))
    (hw : writesOf scene'.container ≠ writesOf scene.container) :
    ∃ pending, scene'.journal.reviews = scene.journal.reviews ++ [pending] ∧
      scene.listener scene.journal.reviews pending = .allow := by
  rw [carryOut_eq] at h
  split at h
  case h_1 reason container hp =>
    obtain ⟨n, rfl, -⟩ := Shopkeeper.prepare_container hp
    obtain ⟨-, rfl⟩ := Prod.mk.inj h
    exact absurd writesOf_readMore hw
  case h_2 t' container hp =>
    obtain ⟨n, rfl, -⟩ := Shopkeeper.prepare_container hp
    split at h
    case h_1 hr =>
      obtain ⟨-, rfl⟩ := Prod.mk.inj hr
      obtain ⟨-, rfl⟩ := Prod.mk.inj h
      exact absurd writesOf_readMore hw
    case h_2 hr =>
      obtain ⟨hv, rfl⟩ := Prod.mk.inj hr
      exact ⟨t'.pending, reviews_commit h, hv⟩

theorem attempt_cases (h : s.attempt k settings payout scene = (outcome, s', scene')) :
    (∀ details, outcome ≠ .committed details) ∧ scene.Intact scene' ∨
      ∃ t, outcome = .committed t.committed ∧ scene.Traded k settings payout t scene' := by
  unfold attempt at h
  split at h
  case h_1 =>
    cases h
    exact Or.inl ⟨by simp, rfl, rfl, rfl⟩
  case h_2 =>
    cases h
    exact Or.inl ⟨by simp, rfl, rfl, rfl⟩
  case h_3 deal order hm =>
    simp only [Prod.mk.injEq] at h
    obtain ⟨hout, -, hscene⟩ := h
    rcases carryOut_cases hm (Prod.ext hout hscene) with ⟨⟨reason, rfl⟩, hi⟩ | ⟨t, ht, htr⟩
    · exact Or.inl ⟨by simp, hi.window, hi.inventory, hi.contents⟩
    · exact Or.inr ⟨t, ht, htr.selected, htr.idle, htr.staged, htr.paid, htr.recipes, htr.offered⟩

/-- An attempt without a trade changes neither window nor inventory nor contents, not even when the
payout is refused after the container was written. No attempt writes the container unless the
listener was asked and allowed it. -/
theorem attempt_atomic (h : s.attempt k settings payout scene = (outcome, s', scene')) :
    ((∀ details, outcome ≠ .committed details) → scene.Intact scene') ∧
    (writesOf scene'.container ≠ writesOf scene.container →
      ∃ pending, scene'.journal.reviews = scene.journal.reviews ++ [pending] ∧
        scene.listener scene.journal.reviews pending = .allow) := by
  constructor
  · intro hne
    rcases attempt_cases h with ⟨-, hi⟩ | ⟨t, ht, -⟩
    · exact hi
    · exact absurd ht (hne _)
  · intro hw
    unfold attempt at h
    split at h
    case h_1 =>
      cases h
      exact absurd rfl hw
    case h_2 =>
      cases h
      exact absurd rfl hw
    case h_3 =>
      simp only [Prod.mk.injEq] at h
      have hc : carryOut k settings _ payout scene.issue = (outcome, scene') := Prod.ext h.1 h.2.2
      obtain ⟨pending, hr, hv⟩ := carryOut_writes hc hw
      exact ⟨pending, hr, hv⟩

def diamondStall : Shopkeeper where
  profile := { id := .ofNat 0, name := "stall" }
  shop := .selling [⟨.plain "diamond" 1, 3⟩]

def lockedCustomer : Scene Container where
  window := (Window.ofRecipes (.ofNat 1)
    (diamondStall.recipes .standard (some (Container.mk [some (.plain "diamond" 2), none]
      false false 0 0))).1).place { slot1 := some (.plain "emerald" 5) }
  inventory := { locked := true }
  container := some { contents := [some (.plain "diamond" 2), none] }
  listener := fun _ _ => .allow
  ids := .ofNat

def lockedSession : Session := .start { id := .ofNat 1, name := "customer" } {}

def lockedAttempt : Outcome × Session × Scene Container :=
  lockedSession.attempt diamondStall {} (.cursor (.plain "diamond" 1)) lockedCustomer

/-- The stall is paid and gives the diamond, and takes both back. -/
theorem attempt_atomic_lockedCustomer :
    lockedAttempt.1 = .aborted .storageWriteFailed ∧ lockedCustomer.Intact lockedAttempt.2.2 ∧
      writesOf lockedAttempt.2.2.container = some 2 ∧
      ∃ pending, lockedAttempt.2.2.journal.reviews = lockedCustomer.journal.reviews ++ [pending] ∧
        lockedCustomer.listener lockedCustomer.journal.reviews pending = .allow := by
  have h : lockedSession.attempt diamondStall {} (.cursor (.plain "diamond" 1)) lockedCustomer =
      (lockedAttempt.1, lockedAttempt.2.1, lockedAttempt.2.2) := rfl
  have hout : lockedAttempt.1 = .aborted .storageWriteFailed := by decide
  have hwrites : writesOf lockedAttempt.2.2.container = some 2 := by decide
  exact ⟨hout, (attempt_atomic h).1 (by simp [hout]), hwrites,
    (attempt_atomic h).2 (by rw [hwrites]; decide)⟩

end Session

end Bazaar
