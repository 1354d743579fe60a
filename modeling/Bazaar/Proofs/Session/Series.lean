import Bazaar.Exchange
import Bazaar.Proofs.Inventory.Payout

/-! # Series of attempts

The trades of a gesture are a series of attempts. All of them but the last one commit a trade, and
each pays for the result that is displayed before it. A gesture that commits anything displays the
recipes anew after the series.
-/

namespace Bazaar

variable {σ : Type} [Storage σ] {k : Shopkeeper} {settings : Settings}
  {payout? : Stack → Option Payout} {s s' : Session} {scene scene' : Scene σ} {g : Gesture}
  {n m : Nat} {stop : BatchStop} {previous : Option Stack} {answer : GestureOutcome}

def BatchStop.ending : BatchStop → List Outcome
  | .idle why => [.idle why]
  | .aborted reason => [.aborted reason]
  | .emptyResult | .insufficientSpace | .resultChanged => []

theorem BatchStop.length_ending_le (stop : BatchStop) : stop.ending.length ≤ 1 := by
  cases stop <;> simp [ending]

theorem BatchStop.not_committed (stop : BatchStop) :
    ∀ o ∈ stop.ending, ∀ d, o ≠ .committed d := by
  cases stop <;> simp [ending]

def GestureOutcome.refusals : List GestureOutcome :=
  [.unsupported, .ignored .notResultSlot, .ignored .cloneStack, .ignored .notHandled]

namespace EchoFilter

variable {f : EchoFilter}

theorem classify_of_isEcho (h : f.isEcho g = true) : f.classify g = (.synthetic, f) := by
  rw [classify, if_pos h]

theorem classify_of_not_isEcho (h : f.isEcho g = false) :
    f.classify g = (.manual, { f with last := some (g.slot, g.timestamp) }) := by
  rw [classify, h]
  rfl

end EchoFilter

namespace Session

/-- Attempts made one after the other, with their outcomes. -/
inductive Series (k : Shopkeeper) (settings : Settings) :
    Session → Scene σ → List Outcome → Session → Scene σ → Prop
  | nil (s : Session) (scene : Scene σ) : Series k settings s scene [] s scene
  | cons {s s' s'' : Session} {scene scene' scene'' : Scene σ} {payout : Payout} {result : Stack}
      {outcome : Outcome} {outcomes : List Outcome} (hr : scene.window.result = some result)
      (hp : scene.inventory.Payable result payout)
      (h : s.attempt k settings payout scene = (outcome, s', scene'))
      (rest : Series k settings s' scene' outcomes s'' scene'') :
      Series k settings s scene (outcome :: outcomes) s'' scene''

theorem Series.single {payout : Payout} {result : Stack} {outcome : Outcome}
    (hr : scene.window.result = some result) (hp : scene.inventory.Payable result payout)
    (h : s.attempt k settings payout scene = (outcome, s', scene')) :
    Series k settings s scene [outcome] s' scene' :=
  .cons hr hp h (.nil s' scene')

/-- A gesture commits some trades in a series, which may end with one attempt more that commits
nothing. -/
structure Answered (k : Shopkeeper) (settings : Settings) (g : Gesture) (s : Session)
    (scene : Scene σ) (commits : List CommittedTrade) (ending : List Outcome) (s' : Session)
    (scene' : Scene σ) : Prop where
  series : Series k settings s scene (commits.map .committed ++ ending) s' scene'
  ending_le : ending.length ≤ 1
  failed : ∀ o ∈ ending, ∀ d, o ≠ .committed d
  single : g.kind.isBulk = false → commits.length + ending.length ≤ 1

theorem answered_single
    (hp : ∀ result payout, payout? result = some payout → scene.inventory.Payable result payout)
    (h : s.single k settings payout? scene = (n, s', scene')) :
    ∃ commits ending, s.Answered k settings g scene commits ending s' scene' ∧
      n = commits.length := by
  unfold Session.single at h
  split at h
  · cases h
    exact ⟨[], [], ⟨.nil s scene, Nat.zero_le 1, by simp, by simp⟩, rfl⟩
  case h_2 payout hpayout =>
    obtain ⟨result, hr, hpayout⟩ := Option.bind_eq_some_iff.1 hpayout
    split at h
    case h_1 d _ _ ha =>
      cases h
      refine ⟨[d], [], ⟨?_, Nat.zero_le 1, by simp, by simp⟩, rfl⟩
      exact .single hr (hp result payout hpayout) ha
    case h_2 outcome _ _ hne ha =>
      cases h
      refine ⟨[], [outcome], ⟨?_, Nat.le_refl 1, ?_, by simp⟩, rfl⟩
      · exact .single hr (hp result payout hpayout) ha
      · rintro o ho d rfl
        exact hne d (List.mem_singleton.1 ho).symm

/-- The induction is on the rounds of a batch; each round that goes on has committed a trade. -/
theorem series_batchAfter
    (h : batchAfter k settings n previous s scene = ((m, stop), s', scene')) :
    ∃ commits : List CommittedTrade,
      Series k settings s scene (commits.map .committed ++ stop.ending) s' scene' ∧
        m = n + commits.length := by
  fun_induction batchAfter k settings n previous s scene
  case case1 | case2 | case3 =>
    cases h
    exact ⟨[], .nil _ _, rfl⟩
  case case4 hr _ storage left hadd hleft why _ _ ha =>
    cases h
    obtain rfl : left = 0 := Decidable.not_not.1 hleft
    exact ⟨[], .single hr (.storage hadd) ha, rfl⟩
  case case5 hr _ storage left hadd hleft reason _ _ ha =>
    cases h
    obtain rfl : left = 0 := Decidable.not_not.1 hleft
    exact ⟨[], .single hr (.storage hadd) ha, rfl⟩
  case case6 hr _ storage left hadd hleft d _ _ ha ih =>
    obtain rfl : left = 0 := Decidable.not_not.1 hleft
    obtain ⟨commits, hrest, rfl⟩ := ih h
    refine ⟨d :: commits, .cons hr (.storage hadd) ha hrest, ?_⟩
    rw [List.length_cons]
    omega

theorem answered_trade (h : s.trade k settings g scene = .ok (n, s', scene')) :
    ∃ commits ending, s.Answered k settings g scene commits ending s' scene' ∧
      n = commits.length := by
  unfold trade at h
  split at h
  · cases h
  · cases h
  · exact answered_single (fun _ _ hp => .cursor hp) (Except.ok.inj h)
  · exact answered_single (fun _ _ hp => .cursor hp) (Except.ok.inj h)
  · exact answered_single (fun _ _ hp => .hotbar g.button hp) (Except.ok.inj h)
  case h_6 hkind =>
    split at h
    case h_1 m stop _ _ hb =>
      cases h
      obtain ⟨commits, hseries, hn⟩ := series_batchAfter hb
      refine ⟨commits, stop.ending, ⟨hseries, stop.length_ending_le, stop.not_committed, ?_⟩, ?_⟩
      · simp [GestureKind.isBulk, hkind]
      · rw [hn, Nat.zero_add]
  all_goals cases h

theorem trade_error (h : s.trade k settings g scene = .error answer) :
    answer ∈ GestureOutcome.refusals := by
  unfold trade at h
  split at h
  case h_3 | h_4 | h_5 => cases h
  case h_6 =>
    split at h
    cases h
  all_goals
    cases h
    decide

def remember (s : Session) (g : Gesture) : Session :=
  { s with echo := { s.echo with last := some (g.slot, g.timestamp) } }

/-- What a session does with a gesture on an open window. An echo and a gesture that is turned down
leave the scene alone. Any other gesture is answered by a series of attempts and, if anything was
committed, by a fresh display. -/
inductive Handled (k : Shopkeeper) (settings : Settings) (g : Gesture) (s : Session)
    (scene : Scene σ) : GestureOutcome → Session → Scene σ → Prop
  | echo (hf : s.echo.isEcho g = true) : Handled k settings g s scene .synthetic s scene
  | refused {answer : GestureOutcome} (hf : s.echo.isEcho g = false)
      (ha : answer ∈ GestureOutcome.refusals) (counter : Amount) :
      Handled k settings g s scene answer { s.remember g with counter } scene
  | answered {s' : Session} {mid : Scene σ} {commits : List CommittedTrade}
      {ending : List Outcome} (hf : s.echo.isEcho g = false)
      (h : (s.remember g).beginGesture.Answered k settings g scene commits ending s' mid) :
      Handled k settings g s scene (.traded commits.length) s'
        (if commits = [] then mid else mid.refresh k settings s'.actor.id)

theorem handled (h : s.handle k settings g scene = (answer, s', scene')) :
    s.Handled k settings g scene answer s' scene' := by
  unfold handle at h
  cases hf : s.echo.isEcho g with
  | true =>
    rw [EchoFilter.classify_of_isEcho hf] at h
    cases h
    exact .echo hf
  | false =>
    rw [EchoFilter.classify_of_not_isEcho hf] at h
    dsimp only at h
    split at h
    · cases h
      exact .refused hf (by decide) s.counter
    split at h
    · cases h
      exact .refused hf (by decide) s.counter
    split at h
    case h_1 ht =>
      cases h
      exact .refused hf (trade_error ht) 0
    case h_2 m _ mid ht =>
      obtain ⟨commits, ending, hanswered, rfl⟩ := answered_trade ht
      have hhandled := Handled.answered hf hanswered
      split at h
      case isTrue hz =>
        cases h
        obtain rfl := List.length_eq_zero_iff.1 hz
        exact hhandled
      case isFalse hz =>
        cases h
        rwa [if_neg fun hnil => hz (congrArg List.length hnil)] at hhandled

/-- A gesture leaves its scene alone, or it is answered by a series of attempts and, if anything was
committed, by a fresh display. -/
theorem handle_cases (h : s.handle k settings g scene = (answer, s', scene')) :
    (∀ n, answer ≠ .traded n) ∧ scene' = scene ∨
      ∃ (mid : Scene σ) (commits : List CommittedTrade) (ending : List Outcome),
        (s.remember g).beginGesture.Answered k settings g scene commits ending s' mid ∧
        answer = .traded commits.length ∧
        scene' = if commits = [] then mid else mid.refresh k settings s'.actor.id := by
  cases handled h with
  | echo => exact Or.inl ⟨by simp, rfl⟩
  | refused _ ha =>
    refine Or.inl ⟨?_, rfl⟩
    rintro n rfl
    simp [GestureOutcome.refusals] at ha
  | answered _ hanswered => exact Or.inr ⟨_, _, _, hanswered, rfl, rfl⟩

end Session

namespace Exchange

variable {x x' : Exchange} {id : ActorId}

theorem handle_session (h : x.handle id k g scene = (answer, x', scene')) :
    ((answer = .ignored .noSession ∨ answer = .ignored .windowClosed) ∧ x' = x ∧
        scene' = scene) ∨
      ∃ s s' : Session, x.sessions id = some s ∧
        s.handle k x.settings g scene = (answer, s', scene') ∧
        x' = x.withSession id (some s') := by
  unfold handle at h
  split at h
  · cases h
    exact Or.inl ⟨Or.inl rfl, rfl, rfl⟩
  case h_2 s hs =>
    split at h
    · cases h
      exact Or.inl ⟨Or.inr rfl, rfl, rfl⟩
    · cases h
      exact Or.inr ⟨s, _, hs, rfl, rfl⟩

theorem handle_cases (h : x.handle id k g scene = (answer, x', scene')) :
    ((∃ why, answer = .ignored why) ∧ x' = x ∧ scene' = scene) ∨
      ∃ s s' : Session, s.handle k x.settings g scene = (answer, s', scene') ∧
        x' = x.withSession id (some s') := by
  rcases handle_session h with ⟨hanswer, hx, hscene⟩ | ⟨s, s', -, hh, hx⟩
  · refine Or.inl ⟨?_, hx, hscene⟩
    rcases hanswer with rfl | rfl
    · exact ⟨.noSession, rfl⟩
    · exact ⟨.windowClosed, rfl⟩
  · exact Or.inr ⟨s, s', hh, hx⟩

end Exchange

end Bazaar
