import Bazaar.Proofs.Recipe.Matching
import Bazaar.Proofs.Session.Series
import Bazaar.Proofs.Shop.Refusal

/-! # The journal of trade attempts

A matched attempt takes the next number of its gesture and ends with one event. The shop is told of
each of them once, and the listener has been asked about it unless a precondition failed. An attempt
that matches nothing leaves at most the event of an inconsistent display.

The numbers do not leave the range of amounts: every committed trade takes something out of each
slot that is not empty.
-/

namespace Bazaar

variable {σ : Type} {j j' j'' : Journal} {k : Shopkeeper} {settings : Settings} {t : Trade}
  {payout : Payout} {outcome : Outcome} {s s' s'' : Session} {scene scene' scene'' : Scene σ}
  {commits more : List CommittedTrade} {aborts : List AbortedTrade} {c : Comparison}

def AbortedTrade.isMatched (a : AbortedTrade) : Bool := a.trade.isSome

def AbortReason.isReviewed : AbortReason → Bool
  | .vetoed | .storageWriteFailed => true
  | _ => false

/-! ## What a journal gains -/

/-- A journal gains some committed and then some aborted trades. -/
structure Journal.Gains (j j' : Journal) (commits : List CommittedTrade)
    (aborts : List AbortedTrade) : Prop where
  events : j'.events = j.events ++ commits.map .committed ++ aborts.map .aborted
  applied : j'.applied = j.applied + commits.length
  aborted : j'.aborted = j.aborted + aborts.countP (·.isMatched)
  reviews : ∃ asked, j'.reviews = j.reviews ++ asked ∧
    asked.length = commits.length + aborts.countP (·.reason.isReviewed)
  unmatched : ∀ a ∈ aborts, a.trade = none ↔ a.reason = .internalInconsistency

namespace Journal.Gains

theorem refl (j : Journal) : j.Gains j [] [] where
  events := by simp
  applied := rfl
  aborted := rfl
  reviews := ⟨[], by simp⟩
  unmatched := by simp

theorem trans (h : j.Gains j' commits []) (h' : j'.Gains j'' more aborts) :
    j.Gains j'' (commits ++ more) aborts where
  events := by simp [h'.events, h.events]
  applied := by rw [h'.applied, h.applied, List.length_append, Nat.add_assoc]
  aborted := by rw [h'.aborted, h.aborted, List.countP_nil, Nat.add_zero]
  reviews := by
    obtain ⟨asked, hr, hn⟩ := h.reviews
    obtain ⟨asked', hr', hn'⟩ := h'.reviews
    refine ⟨asked ++ asked', by rw [hr', hr, List.append_assoc], ?_⟩
    simp only [List.length_append, hn, hn', List.countP_nil]
    omega
  unmatched := h'.unmatched

theorem precondition {reason : AbortReason} (hr : reason.kind = .preconditionFailed) :
    scene.journal.Gains (scene.abort t reason).journal [] [t.aborted reason] where
  events := by simp [Scene.abort]
  applied := rfl
  aborted := rfl
  reviews := ⟨[], by simp [Scene.abort], by cases reason <;> cases hr <;> rfl⟩
  unmatched := by cases reason <;> cases hr <;> simp [Trade.aborted]

theorem refused {reason : AbortReason} (hr : reason.isReviewed = true) (p : PendingTrade) :
    scene.journal.Gains ((scene.review p).2.abort t reason).journal [] [t.aborted reason] where
  events := by simp [Scene.abort, Scene.review]
  applied := rfl
  aborted := rfl
  reviews := ⟨[p], rfl, by simp [Trade.aborted, hr]⟩
  unmatched := by cases reason <;> cases hr <;> simp [Trade.aborted]

theorem committed (p : PendingTrade) :
    scene.journal.Gains ((scene.review p).2.apply t).journal [t.committed] [] where
  events := by simp [Scene.apply, Scene.review]
  applied := rfl
  aborted := rfl
  reviews := ⟨[p], rfl, rfl⟩
  unmatched := by simp

theorem of_issue (h : scene.issue.journal.Gains j commits aborts) :
    scene.journal.Gains j commits aborts :=
  ⟨h.events, h.applied, h.aborted, h.reviews, h.unmatched⟩

theorem inconsistent {a : AbortedTrade} (ht : a.trade = none)
    (hr : a.reason = .internalInconsistency) :
    scene.journal.Gains (scene.emit (.aborted a)).journal [] [a] where
  events := by simp [Scene.emit]
  applied := rfl
  aborted := by simp [Scene.emit, AbortedTrade.isMatched, ht]
  reviews := ⟨[], by simp [Scene.emit], by simp [AbortReason.isReviewed, hr]⟩
  unmatched := by simp [ht, hr]

end Journal.Gains

/-! ## What is left in the offered slots -/

def Offered.larger (o : Offered) : Nat := max (amountIn o.slot1).val (amountIn o.slot2).val

theorem Offered.larger_le (o : Offered) : o.larger ≤ 4294967295 :=
  Nat.max_le.2 ⟨(amountIn o.slot1).le_limit, (amountIn o.slot2).le_limit⟩

def CommittedTrade.taken (d : CommittedTrade) : Nat × Nat :=
  if d.swapped then ((amountIn d.paid2).val, d.paid1.amount.val)
  else (d.paid1.amount.val, (amountIn d.paid2).val)

/-- The offered slots lose what some committed trades have taken out of them, which is something of
each slot that is not empty. -/
structure Offered.Spends (o o' : Offered) (commits : List CommittedTrade) : Prop where
  slot1 : (amountIn o'.slot1).val + (commits.map (·.taken.1)).sum = (amountIn o.slot1).val
  slot2 : (amountIn o'.slot2).val + (commits.map (·.taken.2)).sum = (amountIn o.slot2).val
  larger : o'.larger + commits.length ≤ o.larger

namespace Offered.Spends

variable {o o' o'' : Offered}

theorem refl (o : Offered) : o.Spends o [] := ⟨rfl, rfl, Nat.le_refl _⟩

theorem trans (h : o.Spends o' commits) (h' : o'.Spends o'' more) :
    o.Spends o'' (commits ++ more) where
  slot1 := by
    rw [List.map_append, List.sum_append, ← h.slot1, ← h'.slot1]
    omega
  slot2 := by
    rw [List.map_append, List.sum_append, ← h.slot2, ← h'.slot2]
    omega
  larger := by
    have := h.larger
    have := h'.larger
    rw [List.length_append]
    omega

theorem place (h : o.Spends o' commits) (w : Window) : o.Spends (w.place o').offered commits := by
  constructor
  · exact (congrArg (·.val + _) (amountIn_nonEmpty? o'.slot1)).trans h.slot1
  · exact (congrArg (·.val + _) (amountIn_nonEmpty? o'.slot2)).trans h.slot2
  · have hlarger : (w.place o').offered.larger = o'.larger := by
      simp [Window.place, Offered.larger, amountIn_nonEmpty?]
    exact hlarger ▸ h.larger

end Offered.Spends

theorem Deal.amount_paid_second {d : Deal}
    (h : pays c d.second d.recipe.second = true) :
    (amountIn d.paid.2).val = d.recipe.secondAmount.val := by
  have hzero := amountIn_eq_zero_iff_of_pays h
  unfold Deal.paid Recipe.secondAmount
  cases hd : d.second with
  | none =>
    rw [hd] at hzero
    exact (hzero.1 rfl).symm
  | some s => cases d.recipe.second <;> rfl

theorem Trade.taken_committed (h : pays c t.deal.second t.deal.recipe.second = true) :
    t.committed.taken =
      if t.order.isSwapped then (t.deal.recipe.secondAmount.val, t.deal.recipe.first.amount.val)
      else (t.deal.recipe.first.amount.val, t.deal.recipe.secondAmount.val) := by
  rw [← Deal.amount_paid_second h]
  rfl

theorem amountIn_bind_decreasedBy (slot : Option Stack) (n : Amount) :
    (amountIn (slot.bind (·.decreasedBy n))).val = (amountIn slot).val - n.val := by
  cases slot with
  | none => simp
  | some s => exact amountIn_decreasedBy s n

theorem Trade.spends {w : Window} (h : w.select c = .matched t.deal t.order) :
    w.offered.Spends t.remaining [t.committed] := by
  obtain ⟨ha, hm⟩ := Window.select_eq_matched h
  obtain ⟨he, hp⟩ := Recipe.match?_eq_some hm
  rw [Recipe.paidBy_eq_pays_arrange, ha, Bool.and_eq_true] at hp
  have hle := amountIn_le_of_pays hp.1
  have hle' := amountIn_le_of_pays hp.2
  have hzero := amountIn_eq_zero_iff_of_pays hp.2
  have htaken := Trade.taken_committed hp.2
  have hpos : 0 < t.deal.recipe.first.amount.val := Stack.isEmpty_eq_false_iff.1 he
  have hfirst := amountIn_decreasedBy t.deal.first t.deal.recipe.first.amount
  have hsecond := amountIn_bind_decreasedBy t.deal.second t.deal.recipe.secondAmount
  simp only [amountIn_some, Recipe.secondAmount] at hle hle' hzero hfirst hsecond htaken
  -- What is left of each stack is known; the order says which slot it is in.
  cases ho : t.order with
  | asIs =>
    rw [ho, Offered.arrange, Prod.mk.injEq] at ha
    rw [ho] at htaken
    constructor
    all_goals
      simp only [Trade.remaining, Offered.larger, ho, ha.1, ha.2, amountIn_some, hfirst, hsecond,
        Recipe.secondAmount, htaken, List.map_singleton, List.sum_singleton, List.length_singleton,
        Order.isSwapped, reduceCtorEq, decide_false, Bool.false_eq_true, if_false]
      omega
  | swapped =>
    rw [ho, Offered.arrange, Prod.mk.injEq] at ha
    rw [ho] at htaken
    constructor
    all_goals
      simp only [Trade.remaining, Offered.larger, ho, ha.1, ha.2, amountIn_some, hfirst, hsecond,
        Recipe.secondAmount, htaken, List.map_singleton, List.sum_singleton, List.length_singleton,
        Order.isSwapped, decide_true, if_true]
      omega

/-! ## Attempts -/

theorem Window.setOffered_setOffered (w : Window) (result : Option Stack) (o : Offered) :
    ((w.setResult result).setOffered 0 o.slot1).setOffered 1 o.slot2 = w.place o :=
  rfl

variable [Storage σ]

theorem Shopkeeper.eq_of_prepare_ok {t' : Trade} {container container' : Option σ}
    (h : k.prepare settings t container = (.ok t', container')) :
    ∃ staged, t' = { t with staged } := by
  rw [prepare_eq] at h
  split at h
  · cases h
  split at h
  · split at h
    · cases h
    · split at h
      · cases h
      · cases h
        exact ⟨_, rfl⟩
  · split at h
    · cases h
    · cases h
      exact ⟨none, rfl⟩

namespace Session

theorem commit_told (h : commit t payout scene = (outcome, scene')) :
    (outcome = .aborted .storageWriteFailed ∧
        scene'.journal = (scene.abort t .storageWriteFailed).journal ∧
        scene'.window = scene.window) ∨
      outcome = .committed t.committed ∧ scene'.journal = (scene.apply t).journal ∧
        scene'.window = scene.window.place t.remaining := by
  unfold commit at h
  split at h
  · cases h
    exact Or.inl ⟨rfl, rfl, rfl⟩
  · split at h
    · cases h
      exact Or.inl ⟨rfl, rfl, rfl⟩
    · cases h
      exact Or.inr ⟨rfl, rfl, Window.setOffered_setOffered _ _ _⟩

/-- A trade that is carried out ends with one event about it. -/
theorem carryOut_told (h : carryOut k settings t payout scene = (outcome, scene')) :
    (∃ reason, outcome = .aborted reason ∧
        scene.journal.Gains scene'.journal [] [t.aborted reason] ∧
        scene'.window = scene.window) ∨
      outcome = .committed t.committed ∧ scene.journal.Gains scene'.journal [t.committed] [] ∧
        scene'.window = scene.window.place t.remaining := by
  rw [carryOut_eq] at h
  split at h
  case h_1 reason container hp =>
    cases h
    exact Or.inl ⟨reason, rfl, .precondition (Shopkeeper.prepare_error hp), rfl⟩
  case h_2 t' container hp =>
    -- The staged effects of the prepared trade are no part of what is told of it.
    obtain ⟨staged, rfl⟩ := Shopkeeper.eq_of_prepare_ok hp
    split at h
    case h_1 hr =>
      obtain ⟨-, rfl⟩ := Prod.mk.inj hr
      cases h
      exact Or.inl ⟨.vetoed, rfl, .refused rfl t.pending, rfl⟩
    case h_2 hr =>
      obtain ⟨-, rfl⟩ := Prod.mk.inj hr
      rcases commit_told h with ⟨rfl, hj, hw⟩ | ⟨rfl, hj, hw⟩
      · exact Or.inl ⟨.storageWriteFailed, rfl, hj ▸ .refused rfl t.pending, hw⟩
      · exact Or.inr ⟨rfl, hj ▸ .committed t.pending, hw⟩

theorem issued_carryOut (h : carryOut k settings t payout scene = (outcome, scene')) :
    scene'.ids = scene.ids ∧ scene'.journal.issued = scene.journal.issued := by
  rw [carryOut_eq] at h
  split at h
  · cases h
    exact ⟨rfl, rfl⟩
  split at h
  case h_1 hr =>
    obtain ⟨-, rfl⟩ := Prod.mk.inj hr
    cases h
    exact ⟨rfl, rfl⟩
  case h_2 hr =>
    obtain ⟨-, rfl⟩ := Prod.mk.inj hr
    unfold commit at h
    split at h
    · cases h
      exact ⟨rfl, rfl⟩
    split at h
    all_goals
      cases h
      exact ⟨rfl, rfl⟩

/-- The session and the offered slots leave room for numbering all trades to come. -/
def Counts (s : Session) (scene : Scene σ) : Prop :=
  s.counter.val + scene.window.offered.larger ≤ 4294967295

/-- Between two states of a session and its scene, some trades were committed and then some
aborted. -/
structure Tried (s s' : Session) (scene scene' : Scene σ) (commits : List CommittedTrade)
    (aborts : List AbortedTrade) : Prop where
  journal : scene.journal.Gains scene'.journal commits aborts
  actor : s'.actor = s.actor
  spends : scene.window.offered.Spends scene'.window.offered commits
  counter : s.Counts scene →
    s'.counter.val = s.counter.val + commits.length + aborts.countP (·.isMatched)
  indices : s.Counts scene →
    commits.map (·.index.val) = List.range' (s.counter.val + 1) commits.length

namespace Tried

omit [Storage σ] in
theorem refl (s : Session) (scene : Scene σ) : Tried s s scene scene [] [] where
  journal := .refl _
  actor := rfl
  spends := .refl _
  counter _ := rfl
  indices _ := rfl

omit [Storage σ] in
theorem counts (h : Tried s s' scene scene' commits []) (hs : s.Counts scene) :
    s'.Counts scene' := by
  have hcounter := h.counter hs
  have hleft := h.spends.larger
  rw [List.countP_nil] at hcounter
  unfold Counts at hs ⊢
  omega

omit [Storage σ] in
theorem trans (h : Tried s s' scene scene' commits [])
    (h' : Tried s' s'' scene' scene'' more aborts) :
    Tried s s'' scene scene'' (commits ++ more) aborts where
  journal := h.journal.trans h'.journal
  actor := h'.actor.trans h.actor
  spends := h.spends.trans h'.spends
  counter hs := by
    rw [h'.counter (h.counts hs), h.counter hs, List.length_append, List.countP_nil]
    omega
  indices hs := by
    rw [List.map_append, h.indices hs, h'.indices (h.counts hs), h.counter hs,
      List.length_append, List.countP_nil, ← List.range'_append_1]
    congr 2
    omega

end Tried

theorem val_counter_add_one {w : Window} (hs : s.counter.val + w.offered.larger ≤ 4294967295)
    (h : w.select c = .matched t.deal t.order) : (s.counter + 1).val = s.counter.val + 1 := by
  have hlarger := (Trade.spends h).larger
  rw [List.length_singleton] at hlarger
  rw [Amount.val_add, Amount.val_one]
  omega

/-- An attempt that matches nothing tells at most of an inconsistent display. Any other carries out
a trade with the next id and the next number. -/
theorem attempt_eq (h : s.attempt k settings payout scene = (outcome, s', scene')) :
    (∃ why, scene.window.select settings.comparison = .idle why ∧
      outcome = .idle why ∧ s' = s ∧ scene' = scene) ∨
    (∃ a, scene.window.select settings.comparison = .inconsistent ∧
      outcome = .aborted .internalInconsistency ∧ a.reason = .internalInconsistency ∧
      a.trade = none ∧ s' = s ∧ scene' = scene.emit (.aborted a)) ∨
    ∃ t : Trade, scene.window.select settings.comparison = .matched t.deal t.order ∧
      t.id = scene.nextId ∧ t.actor = s.actor ∧ t.index = s.counter + 1 ∧
      s' = { s with counter := s.counter + 1 } ∧
      carryOut k settings t payout scene.issue = (outcome, scene') := by
  unfold attempt at h
  split at h
  case h_1 hs =>
    cases h
    exact Or.inl ⟨_, hs, rfl, rfl, rfl⟩
  case h_2 hs =>
    cases h
    exact Or.inr (Or.inl ⟨_, hs, rfl, rfl, rfl, rfl, rfl⟩)
  case h_3 deal order hm =>
    simp only [Prod.mk.injEq] at h
    obtain ⟨hout, rfl, hscene⟩ := h
    let t : Trade := {
      id := scene.nextId, shop := k.profile.id, actor := s.actor, deal, order
      index := s.counter + 1 }
    exact Or.inr (Or.inr ⟨t, hm, rfl, rfl, rfl, rfl, Prod.ext hout hscene⟩)

theorem attempt_gains :
    s.attempt k settings payout scene = (outcome, s', scene') →
    match outcome with
    | .idle _ => scene.journal.Gains scene'.journal [] []
    | .aborted reason => ∃ a, a.reason = reason ∧ scene.journal.Gains scene'.journal [] [a]
    | .committed d => scene.journal.Gains scene'.journal [d] [] := by
  intro h
  rcases attempt_eq h with ⟨why, -, rfl, -, rfl⟩ | ⟨a, -, rfl, ha, hnone, -, rfl⟩ |
    ⟨t, -, -, -, -, -, ht⟩
  · exact .refl _
  · exact ⟨a, ha, .inconsistent hnone ha⟩
  · rcases carryOut_told ht with ⟨reason, rfl, hj, -⟩ | ⟨rfl, hj, -⟩
    · exact ⟨t.aborted reason, rfl, hj.of_issue⟩
    · exact hj.of_issue

theorem attempt_tried :
    s.attempt k settings payout scene = (outcome, s', scene') →
    match outcome with
    | .idle _ => s.Tried s' scene scene' [] []
    | .aborted reason => ∃ a, a.reason = reason ∧ s.Tried s' scene scene' [] [a]
    | .committed d => s.Tried s' scene scene' [d] [] := by
  intro h
  rcases attempt_eq h with ⟨why, -, rfl, rfl, rfl⟩ | ⟨a, -, rfl, ha, hnone, rfl, rfl⟩ |
    ⟨t, hm, -, -, hindex, rfl, ht⟩
  · exact .refl _ _
  · refine ⟨a, ha, .inconsistent hnone ha, rfl, .refl _, fun _ => ?_, fun _ => rfl⟩
    simp [AbortedTrade.isMatched, hnone]
  · rcases carryOut_told ht with ⟨reason, rfl, hj, hw⟩ | ⟨rfl, hj, hw⟩
    · refine ⟨t.aborted reason, rfl, hj.of_issue, rfl, ?_, fun hs => val_counter_add_one hs hm,
        fun _ => rfl⟩
      rw [hw]
      exact .refl _
    · refine ⟨hj.of_issue, rfl, ?_, fun hs => val_counter_add_one hs hm, fun hs => ?_⟩
      · rw [hw]
        exact (Trade.spends hm).place scene.window
      · rw [List.map_singleton, Trade.committed, hindex, val_counter_add_one hs hm]
        rfl

/-- What a series tries is put together from its attempts, by induction on the committed ones. -/
theorem Series.tried {ending : List Outcome}
    (h : Series k settings s scene (commits.map .committed ++ ending) s' scene')
    (hle : ending.length ≤ 1) (hfailed : ∀ o ∈ ending, ∀ d, o ≠ .committed d) :
    ∃ aborts, s.Tried s' scene scene' commits aborts ∧ aborts.length ≤ ending.length := by
  induction commits generalizing s scene with
  | nil =>
    cases h with
    | nil => exact ⟨[], .refl _ _, Nat.le_refl 0⟩
    | @cons _ _ _ _ _ _ _ _ outcome outcomes _ _ ha hrest =>
      obtain rfl := List.eq_nil_of_length_eq_zero (Nat.le_zero.1 (Nat.le_of_succ_le_succ hle))
      cases hrest
      have htried := attempt_tried ha
      cases outcome with
      | idle why => exact ⟨[], htried, Nat.zero_le 1⟩
      | aborted reason =>
        obtain ⟨a, -, htried⟩ := htried
        exact ⟨[a], htried, Nat.le_refl 1⟩
      | committed d => exact absurd rfl (hfailed _ (List.mem_singleton_self _) d)
  | cons d commits ih =>
    cases h with
    | cons _ _ ha hrest =>
      obtain ⟨aborts, htried, hlength⟩ := ih hrest
      exact ⟨aborts, (attempt_tried ha).trans htried, hlength⟩

end Session

end Bazaar
