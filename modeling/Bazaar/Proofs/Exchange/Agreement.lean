import Bazaar.Proofs.Exchange.Steps
import Bazaar.Proofs.Session.Journal
import Bazaar.Proofs.Window.Consistency

/-! # Agreement with the window

A session tries the trades that its window shows. While the window is consistent the two agree: no
attempt meets a display of another recipe, and none looks for a selected recipe in vain. Attempts
leave the window alone or place what remains of the offered stacks, and a refresh displays other
recipes for the same offered stacks, so the window stays consistent.
-/

namespace Bazaar

variable {σ : Type} {k : Shopkeeper} {settings : Settings} {payout : Payout} {s s' : Session}
  {scene scene' scene'' : Scene σ} {outcome : Outcome} {outcomes : List Outcome} {g : Gesture}
  {answer : GestureOutcome}

/-- An attempt has not ended in a way that needs a window at odds with its session. -/
structure Outcome.Agrees (o : Outcome) (comparison : Comparison) : Prop where
  active : o ≠ .idle .noActiveRecipe
  consistent : o ≠ .aborted .internalInconsistency
  lenient : comparison = .lenient → ∀ why, o ≠ .idle why

/-- A later scene still has a consistent window, and no inconsistency was told of in between. -/
structure Scene.StaysConsistent (scene scene' : Scene σ) : Prop where
  window : scene'.window.Consistent
  events : ∃ es, scene'.journal.events = scene.journal.events ++ es ∧
    ∀ a, .aborted a ∈ es → a.reason ≠ .internalInconsistency

namespace Scene.StaysConsistent

theorem refl (hw : scene.window.Consistent) : scene.StaysConsistent scene :=
  ⟨hw, [], by simp, by simp⟩

theorem trans (h : scene.StaysConsistent scene') (h' : scene'.StaysConsistent scene'') :
    scene.StaysConsistent scene'' where
  window := h'.window
  events := by
    obtain ⟨es, he, hes⟩ := h.events
    obtain ⟨es', he', hes'⟩ := h'.events
    refine ⟨es ++ es', by rw [he', he, List.append_assoc], fun a ha => ?_⟩
    rcases List.mem_append.1 ha with ha | ha
    · exact hes a ha
    · exact hes' a ha

theorem of_gains {commits : List CommittedTrade} {aborts : List AbortedTrade}
    (hw : scene'.window.Consistent) (h : scene.journal.Gains scene'.journal commits aborts)
    (ha : ∀ a ∈ aborts, a.trade ≠ none) : scene.StaysConsistent scene' where
  window := hw
  events := by
    refine ⟨_, by rw [h.events, List.append_assoc], fun a hmem hreason => ?_⟩
    rcases List.mem_append.1 hmem with hmem | hmem
    · simp at hmem
    · obtain ⟨a', ha', heq⟩ := List.mem_map.1 hmem
      obtain rfl := Event.aborted.inj heq
      exact ha a' ha' ((h.unmatched a' ha').2 hreason)

theorem refresh [Storage σ] (hw : scene.window.Consistent) (k : Shopkeeper) (settings : Settings)
    (actor : ActorId) : scene.StaysConsistent (scene.refresh k settings actor) where
  window := by
    rcases Scene.window_refresh scene k settings actor with h | h
    · exact h ▸ hw
    · exact h ▸ hw.update _
  events := ⟨[.recipesChanged k.profile.id actor], rfl, by simp⟩

end Scene.StaysConsistent

variable [Storage σ]

namespace Session

theorem attempt_agrees (hw : scene.window.Consistent)
    (h : s.attempt k settings payout scene = (outcome, s', scene')) :
    scene.StaysConsistent scene' ∧ (scene.window.result = none ∧ outcome = .idle .emptyResult ∨
      outcome.Agrees settings.comparison) := by
  have hselect := hw.select settings.comparison
  rcases attempt_eq h with ⟨why, hs, rfl, -, rfl⟩ | ⟨a, hs, -⟩ | ⟨t, -, -, -, -, -, ht⟩
  · refine ⟨.refl hw, ?_⟩
    rw [hs] at hselect
    rcases hselect with ⟨hr, hwhy⟩ | ⟨d, order, hd⟩ | ⟨hc, hwhy⟩
    · obtain rfl := Selection.idle.inj hwhy
      exact Or.inl ⟨hr, rfl⟩
    · cases hd
    · obtain rfl := Selection.idle.inj hwhy
      exact Or.inr ⟨by simp, by simp, fun hl => absurd hl hc⟩
  · -- No consistent window asks for a recipe other than the displayed one.
    rw [hs] at hselect
    rcases hselect with ⟨-, hd⟩ | ⟨d, order, hd⟩ | ⟨-, hd⟩
    all_goals cases hd
  · rcases carryOut_told ht with ⟨reason, rfl, hj, hwindow⟩ | ⟨rfl, hj, hwindow⟩
    · have hreason := hj.unmatched (t.aborted reason) (List.mem_singleton_self _)
      refine ⟨.of_gains (hwindow ▸ hw) hj.of_issue (by simp [Trade.aborted]),
        Or.inr ⟨by simp, ?_, by simp⟩⟩
      intro hr
      exact absurd (hreason.2 (Outcome.aborted.inj hr)) (by simp [Trade.aborted])
    · refine ⟨.of_gains ?_ hj.of_issue (by simp), Or.inr ⟨by simp, by simp, by simp⟩⟩
      rw [hwindow]
      exact Window.consistent_place _ _

/-- By induction on a series of attempts, each of which finds a consistent window that shows its
result. -/
theorem Series.agrees (h : Series k settings s scene outcomes s' scene')
    (hw : scene.window.Consistent) :
    scene.StaysConsistent scene' ∧ ∀ o ∈ outcomes, o.Agrees settings.comparison := by
  induction h with
  | nil s scene => exact ⟨.refl hw, by simp⟩
  | cons hr hp ha _ ih =>
    obtain ⟨hstays, hagrees⟩ := attempt_agrees hw ha
    obtain ⟨hrest, hall⟩ := ih hstays.window
    refine ⟨hstays.trans hrest, ?_⟩
    rw [List.forall_mem_cons]
    refine ⟨?_, hall⟩
    rcases hagrees with ⟨hnone, -⟩ | hagrees
    · cases hr.symm.trans hnone
    · exact hagrees

theorem batch_agrees {n : Nat} {stop : BatchStop} (hw : scene.window.Consistent)
    (h : s.batch k settings scene = ((n, stop), s', scene')) :
    scene.StaysConsistent scene' ∧ ∀ o ∈ stop.ending, o.Agrees settings.comparison := by
  obtain ⟨commits, hseries, -⟩ := series_batchAfter h
  obtain ⟨hstays, hall⟩ := hseries.agrees hw
  exact ⟨hstays, (List.forall_mem_append.1 hall).2⟩

theorem handle_agrees (hw : scene.window.Consistent)
    (h : s.handle k settings g scene = (answer, s', scene')) :
    scene.StaysConsistent scene' ∧ ((∀ n, answer ≠ .traded n) ∨
      ∃ (mid : Scene σ) (commits : List CommittedTrade) (ending : List Outcome),
        (s.remember g).beginGesture.Answered k settings g scene commits ending s' mid ∧
        scene' = (if commits = [] then mid else mid.refresh k settings s'.actor.id) ∧
        answer = .traded commits.length ∧ ∀ o ∈ ending, o.Agrees settings.comparison) := by
  rcases handle_cases h with ⟨hne, rfl⟩ | ⟨mid, commits, ending, hanswered, hn, rfl⟩
  · exact ⟨.refl hw, Or.inl hne⟩
  obtain ⟨hstays, hall⟩ := hanswered.series.agrees hw
  refine ⟨?_, Or.inr ⟨mid, commits, ending, hanswered, rfl, hn, (List.forall_mem_append.1 hall).2⟩⟩
  split
  · exact hstays
  · exact hstays.trans (.refresh hstays.window k settings s'.actor.id)

end Session

/-- A consistent window stays so, whatever the host does to it and whatever gestures are handled on
it. Its sessions agree with it: the attempts of a gesture, alone or in a batch, tell of no
inconsistency, find the selected recipe, and under lenient comparison find a deal whenever a result
is displayed. The attempts of a gesture are those of the session that the exchange holds for its
actor. -/
theorem Window.Consistent.agreement (hw : scene.window.Consistent) (k : Shopkeeper) :
    ((∀ o, (scene.window.place o).Consistent) ∧
      (∀ slot stack, (scene.window.setOffered slot stack).Consistent) ∧
      ∀ recipes, (scene.window.update recipes).Consistent) ∧
    (∀ settings payout (s : Session), match s.attempt k settings payout scene with
      | (outcome, _, scene') => scene.StaysConsistent scene' ∧
          (scene.window.result = none ∧ outcome = .idle .emptyResult ∨
            outcome.Agrees settings.comparison)) ∧
    (∀ settings (s : Session), match s.batch k settings scene with
      | ((_, stop), _, scene') => scene.StaysConsistent scene' ∧
          ∀ o ∈ stop.ending, o.Agrees settings.comparison) ∧
    ∀ (x : Exchange) id g, match x.handle id k g scene with
      | (answer, x', scene') => scene.StaysConsistent scene' ∧ ((∀ n, answer ≠ .traded n) ∨
          ∃ (s s' : Session) (mid : Scene σ) (commits : List CommittedTrade)
            (ending : List Outcome), x.sessions id = some s ∧ x'.sessions id = some s' ∧
            (s.remember g).beginGesture.Answered k x.settings g scene commits ending s' mid ∧
            scene' = (if commits = [] then mid else mid.refresh k x.settings s'.actor.id) ∧
            answer = .traded commits.length ∧ ∀ o ∈ ending, o.Agrees x.settings.comparison) := by
  refine ⟨⟨Window.consistent_place _, hw.setOffered, hw.update⟩, ?_, ?_, ?_⟩
  · intro settings payout s
    exact Session.attempt_agrees hw rfl
  · intro settings s
    exact Session.batch_agrees hw rfl
  · intro x id g
    rcases h : x.handle id k g scene with ⟨answer, x', scene'⟩
    rcases Exchange.handle_session h with ⟨hanswer, rfl, rfl⟩ | ⟨s, s', hsession, hs, rfl⟩
    · refine ⟨.refl hw, Or.inl fun n hn => ?_⟩
      rcases hanswer with hanswer | hanswer
      all_goals cases hanswer.symm.trans hn
    · obtain ⟨hstays, hne | ⟨mid, commits, ending, hanswered⟩⟩ := Session.handle_agrees hw hs
      · exact ⟨hstays, Or.inl hne⟩
      · exact ⟨hstays, Or.inr ⟨s, s', mid, commits, ending, hsession, if_pos rfl, hanswered⟩⟩

def jewelPickup : GestureOutcome × Exchange × Scene Container :=
  (Exchange.openSession { settings := {} } { id := .ofNat 1, name := "customer" }).handle (.ofNat 1)
    Session.jewelStall { slot := resultSlot, kind := .pickupAll, timestamp := 0 }
    Session.jewelCustomer

theorem Window.Consistent.agreement_jewelCustomer :
    Session.jewelCustomer.window.Consistent ∧
    Session.jewelCustomer.window.result = some (.plain "diamond" 1) ∧
    (Session.jewelCustomer.window.update []).Consistent ∧
    jewelPickup.1 = .traded 1 ∧ jewelPickup.2.2.window.result = none ∧
    Session.jewelCustomer.StaysConsistent jewelPickup.2.2 := by
  have hw : Session.jewelCustomer.window.Consistent := Window.consistent_place _ _
  obtain ⟨⟨-, -, hupdate⟩, -, -, hhandle⟩ := agreement hw Session.jewelStall
  have hpickup := hhandle
    (Exchange.openSession { settings := {} } { id := .ofNat 1, name := "customer" }) (.ofNat 1)
    { slot := resultSlot, kind := .pickupAll, timestamp := 0 }
  exact ⟨hw, by decide, hupdate [], by decide, by decide, hpickup.1⟩

end Bazaar
