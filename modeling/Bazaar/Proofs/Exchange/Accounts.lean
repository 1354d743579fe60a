import Bazaar.Proofs.Exchange.Journal
import Bazaar.Proofs.Exchange.Steps
import Bazaar.Proofs.Ledger.Booking

/-! # What scenes tell and move

The committed trades that a scene tells of account for everything that leaves the offered slots of
its actor and for everything that comes into the inventory. None of them has an empty stack, since
displayed recipes have none. The trades that are told of have the ids that were given out, and the
outcome of a gesture tells how many of them it has committed.
-/

namespace Bazaar

open Slots

variable {q : Pick} {c : Currency} {shop : Shop} {stock : Option Slots} {r : Recipe}
  {w : Window} {t : Trade} {payout : Payout} {k : Shopkeeper} {settings : Settings} {g : Gesture}
  {id : ActorId} {x x' : Exchange} {outcome : GestureOutcome}
  {scene scene' scene'' : Scene Container} {es es' : List Event}

/-! ## Tidy recipes -/

/-- A second requirement is left out rather than empty. -/
def Recipe.Tidy (r : Recipe) : Prop := ∀ s, r.second = some s → s.isEmpty = false

theorem Recipe.tidy_nonEmpty? {first result : Stack} {second : Option Stack} {outOfStock : Bool} :
    Tidy { first, second := nonEmpty? second, result, outOfStock } :=
  fun _ hs => (nonEmpty?_eq_some_iff.1 hs).2

theorem TradeOffer.tidy_of_recipe? {o : TradeOffer} (h : o.recipe? = some r) : r.Tidy := by
  obtain ⟨-, -, rfl⟩ := Recipe.make?_eq_some_iff.1 h
  exact Recipe.tidy_nonEmpty?

theorem Shop.tidy_of_mem_recipes (h : r ∈ shop.recipes c stock) : r.Tidy := by
  cases shop with
  | admin offers =>
    obtain ⟨o, -, ho⟩ := List.mem_filterMap.1 h
    exact TradeOffer.tidy_of_recipe? ho
  | selling offers =>
    obtain ⟨o, -, ho⟩ := List.mem_filterMap.1 h
    obtain ⟨_, _, _, -, rfl⟩ := PriceOffer.saleRecipe?_eq_some ho
    exact Recipe.tidy_nonEmpty?
  | buying offers =>
    obtain ⟨o, -, ho⟩ := List.mem_filterMap.1 h
    obtain ⟨_, rfl⟩ := PriceOffer.purchaseRecipe?_eq_some ho
    rintro s ⟨⟩
  | trading offers =>
    obtain ⟨o, -, ho⟩ := List.mem_filterMap.1 h
    obtain ⟨r', hr', rfl⟩ := Option.map_eq_some_iff.1 ho
    have htidy : r'.Tidy := TradeOffer.tidy_of_recipe? hr'
    exact htidy
  | book offers =>
    cases stock with
    | none => cases h
    | some slots =>
      obtain ⟨o, -, ho⟩ := List.mem_filterMap.1 h
      obtain ⟨_, _, _, _, _, -, -, -, rfl⟩ := BookOffer.copyRecipe?_eq_some ho
      exact Recipe.tidy_nonEmpty?

def Window.Tidy (w : Window) : Prop := ∀ r ∈ w.recipes, r.Tidy

theorem Trade.solid {comparison : Comparison} (hw : w.Tidy)
    (h : w.select comparison = .matched t.deal t.order) : t.committed.Solid := by
  obtain ⟨hmem, -⟩ := Window.displayed_of_select h
  obtain ⟨-, hm⟩ := Window.select_eq_matched h
  have hvalid := Recipe.isValid_of_match? hm
  simp only [Recipe.isValid, Bool.and_eq_true, Bool.not_eq_true'] at hvalid
  refine ⟨hvalid.1, fun s hs => ?_, hvalid.2⟩
  simp only [Trade.committed, Deal.paid] at hs
  split at hs
  case h_1 offered required _ hr =>
    obtain rfl := Option.some.inj hs
    have hrequired : required.isEmpty = false := hw _ hmem required hr
    exact hrequired
  case h_2 => cases hs

/-! ## What scenes tell and move -/

/-- Between two scenes some events were told, whose trades moved all that the actor gave and got. -/
structure Scene.Moved (scene scene' : Scene Container) (es : List Event) : Prop where
  events : scene'.journal.events = scene.journal.events ++ es
  solid : ∀ d ∈ commitsOf es, d.Solid
  paid : ∀ q, KindOnly q → scene'.window.offered.totalOf q + paidIn q (commitsOf es) =
    scene.window.offered.totalOf q
  delivered : ∀ q, KindOnly q →
    scene'.inventory.totalOf q = scene.inventory.totalOf q + deliveredIn q (commitsOf es)
  left : scene'.window.offered.larger + (commitsOf es).length ≤ scene.window.offered.larger

namespace Scene

theorem Moved.refl (scene : Scene Container) : scene.Moved scene [] where
  events := by simp
  solid := by simp [commitsOf]
  paid _ _ := rfl
  delivered _ _ := rfl
  left := Nat.le_refl _

theorem Moved.trans (h : scene.Moved scene' es) (h' : scene'.Moved scene'' es') :
    scene.Moved scene'' (es ++ es') where
  events := by rw [h'.events, h.events, List.append_assoc]
  solid d hd := by
    rw [commitsOf_append] at hd
    rcases List.mem_append.1 hd with hd | hd
    · exact h.solid d hd
    · exact h'.solid d hd
  paid q hq := by
    have := h.paid q hq
    have := h'.paid q hq
    rw [commitsOf_append, paidIn_append]
    omega
  delivered q hq := by
    have := h.delivered q hq
    have := h'.delivered q hq
    rw [commitsOf_append, deliveredIn_append]
    omega
  left := by
    have := h.left
    have := h'.left
    rw [commitsOf_append, List.length_append]
    omega

theorem Moved.of_same (hevents : scene'.journal.events = scene.journal.events ++ es)
    (hcommits : commitsOf es = []) (hoffered : scene'.window.offered = scene.window.offered)
    (hinventory : scene'.inventory = scene.inventory) : scene.Moved scene' es where
  events := hevents
  solid := by simp [hcommits]
  paid q _ := by
    rw [hcommits, hoffered]
    rfl
  delivered q _ := by
    rw [hcommits, hinventory]
    rfl
  left := by
    rw [hcommits, hoffered]
    exact Nat.le_refl _

theorem Moved.of_traded {d : CommittedTrade} (hd : d = t.committed)
    (hevents : scene'.journal.events = scene.journal.events ++ [.committed d])
    (hw : scene.window.Tidy)
    (hpay : ∀ result, scene.window.result = some result → scene.inventory.Payable result payout)
    (h : scene.Traded k settings payout t scene') : scene.Moved scene' [.committed d] where
  events := hevents
  solid d' hd' := by
    obtain rfl : d' = d := List.mem_singleton.1 hd'
    exact hd ▸ Trade.solid hw h.selected
  paid q hq := by
    obtain ⟨ha, hp⟩ := Window.paid_of_select h.selected
    have htotal := Trade.totalOf_remaining hq ha hp
    have hleft : scene'.window.offered.totalOf q = t.remaining.totalOf q := by
      rw [h.offered]
      simp [Offered.totalOf, portion_nonEmpty?]
    have hpaid : paidIn q (commitsOf [.committed d]) =
        portion q (some t.deal.paid.1) + portion q t.deal.paid.2 := by
      rw [hd]
      exact total_payments q t.committed
    rw [hleft, hpaid, ← htotal]
    omega
  delivered q hq := by
    obtain ⟨-, hres⟩ := Window.displayed_of_select h.selected
    rw [Inventory.totalOf_pay hq (hpay _ hres) h.paid, hd]
    rfl
  left := by
    have hspent := ((Trade.spends h.selected).place scene'.window).larger
    rw [h.offered]
    exact hspent

theorem deliveredIn_le (q : Pick) (ds : List CommittedTrade) :
    deliveredIn q ds ≤ ds.length * 4294967295 := by
  induction ds with
  | nil => exact Nat.zero_le _
  | cons d ds ih =>
    have hd := portion_le q (some d.recipe.result)
    simp only [deliveredIn, List.map_cons, List.sum_cons, List.length_cons] at ih ⊢
    omega

/-- Each stack has 32 bits, and so has the number of trades that a scene can go through, since each
of them takes something out of the offered slots. -/
theorem Moved.totals_lt (h : scene.Moved scene' es) (hq : KindOnly q) :
    paidIn q (commitsOf es) < 2 ^ 64 ∧ deliveredIn q (commitsOf es) < 2 ^ 64 := by
  have hpaid : paidIn q (commitsOf es) ≤ 2 * 4294967295 := by
    have := h.paid q hq
    have := portion_le q scene.window.offered.slot1
    have := portion_le q scene.window.offered.slot2
    simp only [Offered.totalOf] at *
    omega
  have hcommits : (commitsOf es).length ≤ 4294967295 := by
    have := h.left
    have := scene.window.offered.larger_le
    omega
  have hdelivered := Nat.le_trans (deliveredIn_le q (commitsOf es))
    (Nat.mul_le_mul_right 4294967295 hcommits)
  constructor
  · omega
  · omega

/-- One step moves what its events tell of, and displays tidy recipes. -/
theorem Step.moved (h : Step k settings scene scene') (hw : scene.window.Tidy) :
    scene'.window.Tidy ∧ ∃ es, scene.Moved scene' es := by
  cases h with
  | @attempt s s' payout outcome _ _ result hr hp h =>
    have hgains := Session.attempt_gains h
    rcases Session.attempt_cases h with ⟨hne, hi⟩ | ⟨t, rfl, ht⟩
    · have hoffered : scene'.window.offered = scene.window.offered := by rw [hi.window]
      refine ⟨hi.window ▸ hw, ?_⟩
      cases outcome with
      | idle why => exact ⟨[], .of_same (by simpa using hgains.events) rfl hoffered hi.inventory⟩
      | aborted reason =>
        obtain ⟨a, -, hgains⟩ := hgains
        exact ⟨[.aborted a], .of_same (by simpa using hgains.events) rfl hoffered hi.inventory⟩
      | committed d => exact absurd rfl (hne d)
    · refine ⟨fun r hmem => hw r (ht.recipes ▸ hmem), [.committed t.committed], ?_⟩
      refine .of_traded rfl (by simpa using hgains.events) hw (fun result hr' => ?_) ht
      obtain rfl := Option.some.inj (hr.symm.trans hr')
      exact hp
  | refresh actor =>
    refine ⟨forall_mem_refresh (fun _ hr => hr) hw (fun _ => Shop.tidy_of_mem_recipes) actor, ?_⟩
    exact ⟨[.recipesChanged k.profile.id actor],
      .of_same rfl rfl (offered_refresh scene k settings actor) rfl⟩

theorem Steps.moved (h : Steps k settings scene scene') (hw : scene.window.Tidy) :
    scene'.window.Tidy ∧ ∃ es, scene.Moved scene' es := by
  induction h with
  | refl => exact ⟨hw, [], .refl scene⟩
  | tail _ hstep ih =>
    obtain ⟨hw', es, hmoved⟩ := ih
    obtain ⟨hw'', es', hmoved'⟩ := hstep.moved hw'
    exact ⟨hw'', es ++ es', hmoved.trans hmoved'⟩

end Scene

/-! ## Trade ids -/

/-- Between two scenes some events were told, and the trades that they are about got the next ids in
turn. -/
structure Scene.Issued (scene scene' : Scene Container) (es : List Event) : Prop where
  events : scene'.journal.events = scene.journal.events ++ es
  ids : scene'.ids = scene.ids
  trades : ∃ n, scene'.journal.issued = scene.journal.issued + n ∧
    es.filterMap Event.trade? = (List.range' scene.journal.issued n).map scene.ids

theorem Session.issued_attempt {s s' : Session} {outcome : Outcome}
    (h : s.attempt k settings payout scene = (outcome, s', scene')) :
    ∃ es, scene.Issued scene' es := by
  rcases attempt_eq h with ⟨_, -, -, -, rfl⟩ | ⟨a, -, -, -, hnone, -, rfl⟩ |
    ⟨t, -, hid, -, -, -, ht⟩
  · exact ⟨[], by simp, rfl, 0, rfl, rfl⟩
  · refine ⟨[.aborted a], rfl, rfl, 0, rfl, ?_⟩
    simp [Event.trade?, hnone]
  · obtain ⟨hids, hissued⟩ := issued_carryOut ht
    rcases carryOut_told ht with ⟨reason, rfl, hj, -⟩ | ⟨rfl, hj, -⟩
    · refine ⟨[.aborted (t.aborted reason)], by simpa using hj.of_issue.events, hids, 1, hissued,
        ?_⟩
      exact congrArg (fun i => [i]) hid
    · refine ⟨[.committed t.committed], by simpa using hj.of_issue.events, hids, 1, hissued, ?_⟩
      exact congrArg (fun i => [i]) hid

namespace Scene

theorem Issued.refl (scene : Scene Container) : scene.Issued scene [] :=
  ⟨by simp, rfl, 0, rfl, rfl⟩

theorem Issued.trans (h : scene.Issued scene' es) (h' : scene'.Issued scene'' es') :
    scene.Issued scene'' (es ++ es') where
  events := by rw [h'.events, h.events, List.append_assoc]
  ids := h'.ids.trans h.ids
  trades := by
    obtain ⟨n, hn, htrades⟩ := h.trades
    obtain ⟨n', hn', htrades'⟩ := h'.trades
    refine ⟨n + n', by omega, ?_⟩
    rw [List.filterMap_append, htrades, htrades', h.ids, hn, ← List.map_append,
      List.range'_append_1]

theorem Step.issued (h : Step k settings scene scene') : ∃ es, scene.Issued scene' es := by
  cases h with
  | attempt hr hp h => exact Session.issued_attempt h
  | refresh actor => exact ⟨[.recipesChanged k.profile.id actor], rfl, rfl, 0, rfl, rfl⟩

theorem Steps.issued (h : Steps k settings scene scene') : ∃ es, scene.Issued scene' es := by
  induction h with
  | refl => exact ⟨[], .refl scene⟩
  | tail _ hstep ih =>
    obtain ⟨es, hes⟩ := ih
    obtain ⟨es', hes'⟩ := hstep.issued
    exact ⟨es ++ es', hes.trans hes'⟩

end Scene

/-! ## What gestures count -/

def GestureOutcome.commits : GestureOutcome → Nat
  | .traded n => n
  | _ => 0

theorem commitsOf_map_committed (ds : List CommittedTrade) :
    commitsOf (ds.map .committed) = ds := by
  induction ds with
  | nil => rfl
  | cons d ds ih => exact congrArg (d :: ·) ih

theorem commitsOf_map_aborted (as : List AbortedTrade) : commitsOf (as.map .aborted) = [] := by
  simp [commitsOf, Event.committed?]

theorem refreshesOf_map_committed (ds : List CommittedTrade) :
    refreshesOf (ds.map .committed) = 0 := by
  simp [refreshesOf, Event.isRefresh, List.countP_eq_zero]

theorem refreshesOf_map_aborted (as : List AbortedTrade) : refreshesOf (as.map .aborted) = 0 := by
  simp [refreshesOf, Event.isRefresh, List.countP_eq_zero]

/-- Some events of a gesture agree with its outcome. -/
structure GestureOutcome.Counts (outcome : GestureOutcome) (es : List Event) : Prop where
  commits : (commitsOf es).length = outcome.commits
  refreshes : refreshesOf es = if 0 < outcome.commits then 1 else 0

theorem Journal.Answers.counts {j j' : Journal} {shop : ShopId} {commits : List CommittedTrade}
    {aborts : List AbortedTrade} (h : j.Answers j' g shop id commits aborts) :
    ∃ es, j'.events = j.events ++ es ∧ (GestureOutcome.traded commits.length).Counts es := by
  refine ⟨_, by rw [h.events, List.append_assoc, List.append_assoc], ?_, ?_⟩
  · rw [commitsOf_append, commitsOf_append, commitsOf_map_committed, commitsOf_map_aborted]
    split <;> simp [commitsOf, Event.committed?, GestureOutcome.commits]
  · rw [refreshesOf_append, refreshesOf_append, refreshesOf_map_committed, refreshesOf_map_aborted]
    cases commits <;> simp [refreshesOf, Event.isRefresh, GestureOutcome.commits]

namespace Exchange

theorem counts_of_not_traded (hne : ∀ n, outcome ≠ .traded n) : outcome.Counts [] := by
  cases outcome with
  | traded n => exact absurd rfl (hne n)
  | ignored why => exact ⟨rfl, rfl⟩
  | synthetic => exact ⟨rfl, rfl⟩
  | unsupported => exact ⟨rfl, rfl⟩

theorem counts_handle (h : x.handle id k g scene = (outcome, x', scene')) :
    ∃ es, scene'.journal.events = scene.journal.events ++ es ∧ outcome.Counts es := by
  rcases handle_cases h with ⟨⟨why, rfl⟩, -, rfl⟩ | ⟨s, s', hs, -⟩
  · exact ⟨[], by simp, counts_of_not_traded (by simp)⟩
  by_cases hne : ∀ n, outcome ≠ .traded n
  · refine ⟨[], ?_, counts_of_not_traded hne⟩
    rw [Session.journal_handle_of_not_traded hne hs, List.append_nil]
  · simp only [not_forall, Decidable.not_not] at hne
    obtain ⟨n, rfl⟩ := hne
    obtain ⟨commits, aborts, rfl, hanswers, -⟩ := Session.answers_of_handle hs
    exact hanswers.counts

end Exchange

end Bazaar
