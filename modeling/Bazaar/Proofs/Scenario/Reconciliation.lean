import Bazaar.Proofs.Exchange.Accounts
import Bazaar.Proofs.Exchange.Play

/-! # Ledgers and holdings

The ledger of a replayed scenario books every committed trade, provided that the trades have
different ids. Its totals are the difference between what the actor had at first and has in the
end, and its counts are those of the gestures.
-/

namespace Bazaar

open Slots

variable {k : Shopkeeper} {settings : Settings} {id : ActorId} {x x' : Exchange}
  {scene scene' : Scene Container}

/-! ## Played gestures -/

namespace Exchange

variable {n : Nat} {gestures : List Gesture} {played : List PlayedGesture}

theorem steps_play (h : x.play k id n gestures scene = (played, x', scene')) :
    Scene.Steps k x.settings scene scene' := by
  induction gestures generalizing n x scene played with
  | nil =>
    cases h
    exact .refl
  | cons g gestures ih =>
    obtain ⟨outcome, x₁, scene₁, rest, hg, hrest, rfl⟩ := play_cons h
    exact (steps_handle hg).trans (settings_handle hg ▸ ih hrest)

theorem counts_play (h : x.play k id n gestures scene = (played, x', scene')) :
    ∃ es, scene'.journal.events = scene.journal.events ++ es ∧
      (played.map (·.outcome.commits)).sum = (commitsOf es).length ∧
      played.countP (0 < ·.outcome.commits) = refreshesOf es := by
  induction gestures generalizing n x scene played with
  | nil =>
    cases h
    exact ⟨[], by simp, rfl, rfl⟩
  | cons g gestures ih =>
    obtain ⟨outcome, x₁, scene₁, rest, hg, hrest, rfl⟩ := play_cons h
    obtain ⟨es, hevents, hcounts⟩ := counts_handle hg
    obtain ⟨es', hevents', hsum, hnumber⟩ := ih hrest
    refine ⟨es ++ es', by rw [hevents', hevents, List.append_assoc], ?_, ?_⟩
    · simp [hsum, hcounts.commits]
    · rw [List.countP_cons, hnumber, refreshesOf_append, hcounts.refreshes]
      simp only [decide_eq_true_eq]
      omega

end Exchange

/-! ## Replays -/

namespace Scenario

variable {s : Scenario} {ids : Nat → TradeId} {gestures : List PlayedGesture}
  {container : Option Container} {inventory : Inventory} {report : Report} {item : String}

theorem total_padded (q : Pick) (size : Nat) (slots : Slots) :
    total q (padded size slots) = total q slots := by
  have hmap : total q (slots.map nonEmpty?) = total q slots := by
    simp [total, Function.comp_def, portion_nonEmpty?]
  have hnone : total q (List.replicate (size - slots.length) none) = 0 := by
    simp [total]
  rw [padded, total_append, hmap, hnone, Nat.add_zero]

theorem totalOf_build {p : Pockets} (h : p.build = .ok inventory) (q : Pick) :
    inventory.totalOf q = total q p.storage + portion q p.cursor := by
  unfold Pockets.build at h
  split at h
  · cases h
  · cases h
    simp only [Inventory.totalOf, total_padded, portion_nonEmpty?]

theorem build_of_props (h : s.props = .ok (container, inventory)) :
    s.inventory.build = .ok inventory := by
  unfold props at h
  split at h
  · cases h
  split at h
  case h_1 =>
    cases hb : s.inventory.build <;> rw [hb] at h <;> cases h
    rfl
  case h_2 c _ =>
    cases hc : c.build <;> rw [hc] at h
    · cases h
    · cases hb : s.inventory.build <;> rw [hb] at h <;> cases h
      rfl

theorem tidy_opening (s : Scenario) (settings : Settings) (ids : Nat → TradeId)
    (container : Option Container) (inventory : Inventory) :
    (s.opening settings ids container inventory).window.Tidy :=
  fun _ hr => Shop.tidy_of_mem_recipes hr

def brings (s : Scenario) (q : Pick) : Nat :=
  s.offered.totalOf q + (total q s.inventory.storage + portion q s.inventory.cursor)

theorem totalOf_opening (settings : Settings) (ids : Nat → TradeId)
    (container : Option Container) (h : s.inventory.build = .ok inventory) (q : Pick) :
    (s.opening settings ids container inventory).window.offered.totalOf q +
      (s.opening settings ids container inventory).inventory.totalOf q = s.brings q := by
  have hoffered : (s.opening settings ids container inventory).window.offered.totalOf q =
      s.offered.totalOf q := by
    simp [opening, Window.place, Window.reselect, Offered.totalOf, portion_nonEmpty?]
  rw [hoffered, brings, ← totalOf_build h]
  rfl

/-- A performance takes the opening scene along steps, and its events are all that was told. -/
theorem steps_perform (h : s.perform settings ids = .ok (gestures, scene)) :
    ∃ container inventory, s.inventory.build = .ok inventory ∧
      Scene.Steps s.shopkeeper settings (s.opening settings ids container inventory) scene ∧
      (gestures.map (·.outcome.commits)).sum = (commitsOf scene.journal.events).length ∧
      gestures.countP (0 < ·.outcome.commits) = refreshesOf scene.journal.events := by
  unfold perform at h
  cases hp : s.props with
  | error flaw =>
    rw [hp] at h
    cases h
  | ok props =>
    obtain ⟨container, inventory⟩ := props
    rcases hplay : (Exchange.openSession { settings } s.trader).play s.shopkeeper s.trader.id 0
      s.gestures (s.opening settings ids container inventory) with ⟨played, x, last⟩
    rw [hp, Except.map] at h
    simp only [hplay] at h
    cases h
    obtain ⟨es, hevents, hsum, hnumber⟩ := Exchange.counts_play hplay
    obtain rfl : scene.journal.events = es := hevents
    exact ⟨container, inventory, build_of_props hp, Exchange.steps_play hplay, hsum, hnumber⟩

theorem moved_opening
    (h : Scene.Steps s.shopkeeper settings (s.opening settings ids container inventory) scene) :
    (s.opening settings ids container inventory).Moved scene scene.journal.events := by
  obtain ⟨-, es, hmoved⟩ := h.moved (tidy_opening s settings ids container inventory)
  obtain rfl : scene.journal.events = es := hmoved.events
  exact hmoved

theorem unrepeated_perform_iff (h : s.perform settings ids = .ok (gestures, scene)) :
    Unrepeated scene.journal.events ↔ ((List.range scene.journal.issued).map ids).Nodup := by
  obtain ⟨container, inventory, -, hsteps, -, -⟩ := steps_perform h
  obtain ⟨es, hissued⟩ := hsteps.issued
  obtain rfl : scene.journal.events = es := hissued.events
  obtain ⟨n, hn, htrades⟩ := hissued.trades
  have hn : scene.journal.issued = n := hn.trans (Nat.zero_add n)
  rw [Unrepeated, htrades, hn, List.range_eq_range']
  rfl

theorem perform_of_replayWith (h : s.replayWith settings ids = .ok report) :
    ∃ gestures scene, s.perform settings ids = .ok (gestures, scene) ∧
      report = s.report gestures scene := by
  unfold replayWith at h
  rcases hp : s.perform settings ids with flaw | ⟨gestures, scene⟩ <;> rw [hp] at h
  · cases h
  · exact ⟨gestures, scene, rfl, (Except.ok.inj h).symm⟩

/-- The events of different trades are all booked by a ledger, which balances and reconciles with
what the gestures have committed and with what the actor had at first and has in the last scene. -/
structure Reconciles (s : Scenario) (scene : Scene Container) (report : Report) (ledger : Ledger) :
    Prop where
  booked : ({} : Ledger).recordAll report.events = .ok ledger
  summary : report.ledger = ledger.summary
  balanced : ∀ d, .committed d ∈ report.events → ledger.balance d.trade = .balanced
  unknown : ∀ a id, .aborted a ∈ report.events → a.trade = some id → ledger.balance id = .unknown
  committed : report.ledger.committed = (commitsOf report.events).length
  commits : report.ledger.committed = (report.gestures.map (·.outcome.commits)).sum
  refreshes : report.ledger.refreshes = report.gestures.countP (0 < ·.outcome.commits)
  aborted : report.ledger.aborted.sum = (abortsOf report.events).length
  holdings : ∀ item, scene.window.offered.totalOf (ofItem item) +
      (total (ofItem item) report.storage + portion (ofItem item) report.cursor) +
        report.ledger.paid.count item =
    s.brings (ofItem item) + report.ledger.delivered.count item

theorem ledger_report (s : Scenario) (gestures : List PlayedGesture)
    (hsolid : ∀ d ∈ commitsOf scene.journal.events, d.Solid)
    (hids : Unrepeated scene.journal.events) :
    ({} : Ledger).recordAll scene.journal.events = .ok (.ofEvents scene.journal.events) ∧
      (s.report gestures scene).ledger = (Ledger.ofEvents scene.journal.events).summary := by
  have hbooked : (Ledger.ofEvents []).recordAll scene.journal.events =
      .ok (.ofEvents ([] ++ scene.journal.events)) :=
    Ledger.recordAll_eq_ok hsolid hids.nodup_trades
  exact ⟨hbooked, congrArg Ledger.summary (Ledger.foldl_listen hbooked)⟩

/-- Totals of 64 bits are enough for the ledger of a replay. -/
theorem replay_totals_lt (h : s.replayWith settings ids = .ok report)
    (hids : Unrepeated report.events) (item : String) :
    report.ledger.paid.count item < 2 ^ 64 ∧ report.ledger.delivered.count item < 2 ^ 64 := by
  obtain ⟨gestures, scene, hp, rfl⟩ := perform_of_replayWith h
  obtain ⟨_, _, -, hsteps, -, -⟩ := steps_perform hp
  have hmoved := moved_opening hsteps
  rw [(ledger_report s gestures hmoved.solid hids).2, Ledger.count_paid, Ledger.count_delivered]
  exact hmoved.totals_lt (kindOnly_ofItem item)

/-- The ledger of a replay with different trade ids reconciles with the holdings of the actor. -/
theorem replay_reconciles (s : Scenario) (settings : Settings) (ids : Nat → TradeId)
    (report : Report) (h : s.replayWith settings ids = .ok report)
    (hids : Unrepeated report.events) :
    ∃ gestures scene ledger, s.perform settings ids = .ok (gestures, scene) ∧
      report = s.report gestures scene ∧ s.Reconciles scene report ledger := by
  obtain ⟨gestures, scene, hp, rfl⟩ := perform_of_replayWith h
  obtain ⟨container, inventory, hbuild, hsteps, hsum, hnumber⟩ := steps_perform hp
  have hmoved := moved_opening hsteps
  obtain ⟨hbooked, hledger⟩ := ledger_report s gestures hmoved.solid hids
  obtain ⟨hbalanced, hunknown⟩ := Ledger.balance_ofEvents hids
  have hcommitted := Ledger.committed_summary scene.journal.events
  refine ⟨gestures, scene, .ofEvents scene.journal.events, hp, rfl, hbooked, hledger, hbalanced,
    hunknown, ?_, ?_, ?_, ?_, fun item => ?_⟩
  · rw [hledger]
    exact hcommitted
  · rw [hledger, hcommitted]
    exact hsum.symm
  · rw [hledger]
    exact hnumber.symm
  · rw [hledger]
    exact Ledger.sum_aborted _
  · have hq := kindOnly_ofItem item
    have hpaid := hmoved.paid _ hq
    have hdelivered := hmoved.delivered _ hq
    have hopening := totalOf_opening settings ids container hbuild (ofItem item)
    rw [hledger, Ledger.count_paid, Ledger.count_delivered, ← hopening, ← hpaid]
    change _ + scene.inventory.totalOf (ofItem item) + _ = _
    rw [hdelivered]
    omega

/-- A stall sells diamonds for four emeralds. Its chest has room for the price of one of them, so
that the second trade is aborted. -/
def oliveStall : Scenario where
  name := "diamonds"
  actor := { name := "alex" }
  shop := { name := "olive's stall", definition := .selling [⟨.plain "diamond" 1, 4⟩] }
  container := some { slots := 2, items := [.plain "diamond" 3, .plain "emerald" 60] }
  offered := { slot1 := some (.plain "emerald" 9) }
  gestures := [
    { slot := resultSlot, kind := .pickupAll, timestamp := 0 },
    { slot := resultSlot, kind := .hotbarSwap, timestamp := 1, button := some 0 }]

theorem replay_reconciles_oliveStall :
    ∃ report, oliveStall.replayWith {} Id.ofNat = .ok report ∧ Unrepeated report.events ∧
      report.ledger.committed = 1 ∧ report.ledger.aborted.sum = 1 ∧
      ∃ gestures scene ledger, oliveStall.perform {} Id.ofNat = .ok (gestures, scene) ∧
        report = oliveStall.report gestures scene ∧
        oliveStall.Reconciles scene report ledger := by
  refine ⟨_, rfl, ?_, ?_, ?_, replay_reconciles oliveStall {} Id.ofNat _ rfl ?_⟩
  · decide
  · decide
  · decide
  · decide

end Scenario

end Bazaar
