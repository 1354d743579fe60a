import Bazaar.Session

/-! # Progress of trades

A committed trade takes items out of the offered slots. The offered amount therefore bounds how
often trades can be repeated.
-/

namespace Bazaar

def Offered.total (o : Offered) : Nat := (amountIn o.slot1).val + (amountIn o.slot2).val

theorem amountIn_nonEmpty? (slot : Option Stack) : amountIn (nonEmpty? slot) = amountIn slot := by
  cases slot with
  | none => rfl
  | some s => by_cases h : s.amount = 0 <;> simp [nonEmpty?, Stack.isEmpty, h]

theorem amountIn_decreasedBy (s : Stack) (n : Amount) :
    (amountIn (s.decreasedBy n)).val = s.amount.val - n.val := by
  unfold Stack.decreasedBy
  split
  case isTrue h => simpa using (congrArg Amount.val h).symm
  case isFalse => simp [Stack.withAmount]

/-- Both requirements of a matched recipe are paid, and its first one is not empty. -/
theorem Recipe.match?_eq_some {r : Recipe} {o : Offered} {c : Comparison} {order : Order}
    (h : r.match? o c = some order) : r.first.isEmpty = false ∧ r.paidBy o c order = true := by
  unfold Recipe.match? at h
  split at h
  · simp at h
  case isFalse hv =>
    refine ⟨by simp_all [Recipe.isValid], ?_⟩
    split at h
    case isTrue hp => cases h; exact hp
    case isFalse =>
      split at h
      case isTrue hp => cases h; exact hp
      case isFalse => simp at h

/-- A stack that pays for a requirement is at least as large. -/
theorem amountIn_le_of_pays {c : Comparison} {offered required : Option Stack}
    (h : pays c offered required = true) :
    (amountIn required).val ≤ (amountIn offered).val := by
  rw [← amountIn_nonEmpty? offered, ← amountIn_nonEmpty? required]
  unfold pays at h
  split at h
  case h_1 ho hr => simp [ho, hr]
  case h_2 ho hr => simp at h
  case h_3 ho hr => simp at h
  case h_4 o r ho hr =>
    rw [ho, hr]
    simp only [Bool.and_eq_true, decide_eq_true_eq] at h
    exact h.1

/-- The deal that a window asks for is one that its offered stacks pay for. -/
theorem Window.select_eq_matched {w : Window} {c : Comparison} {d : Deal} {order : Order}
    (h : w.select c = .matched d order) :
    w.offered.arrange order = (some d.first, d.second) ∧
      d.recipe.match? w.offered c = some order := by
  unfold Window.select at h
  split at h
  · cases h
  split at h
  · cases h
  split at h
  · cases h
  split at h
  · cases h
  case h_2 hm =>
    split at h
    · cases h
    case h_2 ha =>
      cases h
      exact ⟨ha, hm⟩

/-- Less is left after a matched trade than was offered for it. -/
theorem Trade.remaining_total_lt {w : Window} {c : Comparison} {t : Trade}
    (h : w.select c = .matched t.deal t.order) : t.remaining.total < w.offered.total := by
  obtain ⟨ha, hm⟩ := Window.select_eq_matched h
  obtain ⟨he, hp⟩ := Recipe.match?_eq_some hm
  rw [Recipe.paidBy_eq_pays_arrange, ha] at hp
  simp only [Bool.and_eq_true] at hp
  have h1 := amountIn_le_of_pays hp.1
  have h2 := amountIn_le_of_pays hp.2
  have hpos : 0 < t.deal.recipe.first.amount.val := Stack.isEmpty_eq_false_iff.1 he
  have hl : (amountIn (t.deal.second.bind (·.decreasedBy t.deal.recipe.secondAmount))).val ≤
      (amountIn t.deal.second).val := by
    cases t.deal.second with
    | none => simp
    | some s => simp [amountIn_decreasedBy]
  have hf := amountIn_decreasedBy t.deal.first t.deal.recipe.first.amount
  simp only [amountIn_some] at h1
  unfold Trade.remaining Offered.total
  cases ho : t.order with
  | asIs =>
    rw [ho, Offered.arrange] at ha
    obtain ⟨ha1, ha2⟩ := Prod.mk.inj ha
    simp only [ha1, ha2]
    simp only [amountIn_some] at hl hf ⊢
    omega
  | swapped =>
    rw [ho, Offered.arrange] at ha
    obtain ⟨ha1, ha2⟩ := Prod.mk.inj ha
    simp only [ha1, ha2]
    simp only [amountIn_some] at hl hf ⊢
    omega

namespace Window

@[simp] theorem offered_reselect (w : Window) : w.reselect.offered = w.offered := rfl

@[simp] theorem offered_setResult (w : Window) (r : Option Stack) :
    (w.setResult r).offered = w.offered := rfl

@[simp] theorem offered_setOffered_zero (w : Window) (s : Option Stack) :
    (w.setOffered 0 s).offered = { w.offered with slot1 := nonEmpty? s } := rfl

@[simp] theorem offered_setOffered_one (w : Window) (s : Option Stack) :
    (w.setOffered 1 s).offered = { w.offered with slot2 := nonEmpty? s } := rfl

end Window

namespace Session

variable {σ : Type} [Storage σ]

/-- The offered slots after a commit hold what remains of the trade. -/
theorem offered_commit {t : Trade} {payout : Payout} {scene scene' : Scene σ}
    {d : CommittedTrade} (h : commit t payout scene = (.committed d, scene')) :
    scene'.window.offered.total = t.remaining.total := by
  unfold commit at h
  split at h
  · simp at h
  · split at h
    · simp at h
    · obtain ⟨-, rfl⟩ := Prod.mk.inj h
      simp [Scene.apply, Offered.total, amountIn_nonEmpty?]

theorem offered_carryOut {k : Shopkeeper} {settings : Settings} {t : Trade} {payout : Payout}
    {scene scene' : Scene σ} {d : CommittedTrade}
    (h : carryOut k settings t payout scene = (.committed d, scene')) :
    scene'.window.offered.total = t.remaining.total := by
  rw [carryOut_eq] at h
  split at h
  · simp at h
  case h_2 t' container hp =>
    have ht : t'.remaining = t.remaining := by
      rw [Shopkeeper.prepare_eq] at hp
      split at hp
      · simp at hp
      split at hp
      · split at hp
        · simp at hp
        · split at hp
          · simp at hp
          · obtain ⟨hp, -⟩ := Prod.mk.inj hp
            cases hp; rfl
      · split at hp
        · simp at hp
        · obtain ⟨hp, -⟩ := Prod.mk.inj hp
          cases hp; rfl
    split at h
    · simp at h
    · rw [← ht]; exact offered_commit h

/-- A committed trade leaves less in the offered slots. -/
theorem offered_attempt_lt {s s' : Session} {k : Shopkeeper} {settings : Settings}
    {payout : Payout} {scene scene' : Scene σ} {d : CommittedTrade}
    (h : s.attempt k settings payout scene = (.committed d, s', scene')) :
    scene'.window.offered.total < scene.window.offered.total := by
  unfold attempt at h
  split at h
  · simp at h
  · simp at h
  case h_3 deal order hs =>
    simp only [Prod.mk.injEq] at h
    obtain ⟨ho, -, hsc⟩ := h
    rw [offered_carryOut (Prod.ext ho hsc)]
    exact Trade.remaining_total_lt hs

end Session

end Bazaar
