import Bazaar.Proofs.Session.Journal

/-! # The journal of a gesture

A gesture that goes through the trades of the result slot leaves a journal of one form: its
committed trades in order, at most one aborted trade, and an announcement if anything was committed.
Every other gesture leaves the journal alone.
-/

namespace Bazaar

variable {σ : Type} {k : Shopkeeper} {settings : Settings} {g : Gesture} {s s' : Session}
  {scene scene' : Scene σ} {n : Nat} {commits : List CommittedTrade} {aborts : List AbortedTrade}
  {shop : ShopId} {actor : ActorId} {j j' : Journal}

/-- What a journal gains by a gesture with some committed and some aborted trades. -/
structure Journal.Answers (j j' : Journal) (g : Gesture) (shop : ShopId) (actor : ActorId)
    (commits : List CommittedTrade) (aborts : List AbortedTrade) : Prop where
  events : j'.events = j.events ++ commits.map .committed ++ aborts.map .aborted ++
    if commits = [] then [] else [.recipesChanged shop actor]
  indices : commits.map (·.index.val) = List.range' 1 commits.length
  aborts_le : aborts.length ≤ 1
  single : g.kind.isBulk = false → commits.length + aborts.length ≤ 1
  unmatched : ∀ a ∈ aborts, a.trade = none ↔ a.reason = .internalInconsistency
  applied : j'.applied = j.applied + commits.length
  aborted : j'.aborted = j.aborted + aborts.countP (·.isMatched)
  reviews : ∃ asked, j'.reviews = j.reviews ++ asked ∧
    asked.length = commits.length + aborts.countP (·.reason.isReviewed)

namespace Session

/-- No offer is large enough to run out of numbers when the trades are counted from one on. -/
theorem counts_of_counter_eq_zero (hs : s.counter = 0) (scene : Scene σ) : s.Counts scene := by
  have := scene.window.offered.larger_le
  simpa [Counts, hs] using this

theorem Tried.answers (h : s.Tried s' scene scene' commits aborts) (hs : s.counter = 0)
    (hle : aborts.length ≤ 1)
    (hsingle : g.kind.isBulk = false → commits.length + aborts.length ≤ 1)
    (hj : j'.events = scene'.journal.events ++
      if commits = [] then [] else [.recipesChanged shop actor])
    (ha : j'.applied = scene'.journal.applied) (hb : j'.aborted = scene'.journal.aborted)
    (hr : j'.reviews = scene'.journal.reviews) :
    scene.journal.Answers j' g shop actor commits aborts where
  events := by rw [hj, h.journal.events]
  indices := by
    have hindices := h.indices (counts_of_counter_eq_zero hs scene)
    rwa [hs, Amount.val_zero, Nat.zero_add] at hindices
  aborts_le := hle
  single := hsingle
  unmatched := h.journal.unmatched
  applied := ha.trans h.journal.applied
  aborted := hb.trans h.journal.aborted
  reviews := by
    rw [hr]
    exact h.journal.reviews

variable [Storage σ]

theorem journal_handle_of_not_traded {answer : GestureOutcome} (hne : ∀ n, answer ≠ .traded n)
    (h : s.handle k settings g scene = (answer, s', scene')) : scene'.journal = scene.journal := by
  rcases handle_cases h with ⟨-, rfl⟩ | ⟨_, commits, _, -, rfl, -⟩
  · rfl
  · exact absurd rfl (hne commits.length)

theorem answers_of_handle (h : s.handle k settings g scene = (.traded n, s', scene')) :
    ∃ commits aborts, commits.length = n ∧
      scene.journal.Answers scene'.journal g k.profile.id s'.actor.id commits aborts ∧
      s'.counter.val = n + aborts.countP (·.isMatched) := by
  rcases handle_cases h with ⟨hne, -⟩ | ⟨mid, commits, ending, hanswered, hn, rfl⟩
  · exact absurd rfl (hne n)
  obtain rfl := GestureOutcome.traded.inj hn
  have hs₀ : (s.remember g).beginGesture.counter = 0 := rfl
  obtain ⟨aborts, htried, hle⟩ := hanswered.series.tried hanswered.ending_le hanswered.failed
  have hcounter := htried.counter (counts_of_counter_eq_zero hs₀ scene)
  rw [hs₀, Amount.val_zero, Nat.zero_add] at hcounter
  refine ⟨commits, aborts, rfl, ?_, hcounter⟩
  apply htried.answers hs₀ (Nat.le_trans hle hanswered.ending_le)
  · intro hbulk
    have := hanswered.single hbulk
    omega
  · split
    · rw [List.append_nil]
    · rfl
  all_goals
    split
    · rfl
    · rfl

end Session

/-- A gesture on the result slot that trades leaves a journal of one form, in which the events, what
the shop and the listener were told and the number of trades all agree. Any other gesture leaves the
journal alone. -/
theorem Exchange.journal_handle [Storage σ] (x : Exchange) (id : ActorId) (k : Shopkeeper)
    (g : Gesture) (scene : Scene σ) :
    match x.handle id k g scene with
    | (.traded n, x', scene') => ∃ s' commits aborts, x'.sessions id = some s' ∧
        commits.length = n ∧
        scene.journal.Answers scene'.journal g k.profile.id s'.actor.id commits aborts ∧
        s'.counter.val = n + aborts.countP (·.isMatched)
    | (_, _, scene') => scene'.journal = scene.journal := by
  rcases h : x.handle id k g scene with ⟨outcome, x', scene'⟩
  rcases handle_cases h with ⟨⟨why, rfl⟩, -, rfl⟩ | ⟨s, s', hs, rfl⟩
  · rfl
  · cases outcome with
    | traded n =>
      obtain ⟨commits, aborts, hanswer⟩ := Session.answers_of_handle hs
      exact ⟨s', commits, aborts, by simp [withSession], hanswer⟩
    | ignored why => exact Session.journal_handle_of_not_traded (by simp) hs
    | synthetic => exact Session.journal_handle_of_not_traded (by simp) hs
    | unsupported => exact Session.journal_handle_of_not_traded (by simp) hs

end Bazaar
