import Bazaar.Session.Progress

/-! # Batches

A batch trades as often as possible and puts every result into the actor's storage.
-/

namespace Bazaar

inductive BatchStop
  /-- No result is displayed. -/
  | emptyResult
  /-- The storage cannot hold another result. -/
  | insufficientSpace
  /-- The displayed result became a different kind. -/
  | resultChanged
  | idle (why : Idle)
  | aborted (reason : AbortReason)
  deriving DecidableEq

namespace Session

variable {σ : Type} [Storage σ]

/-- Trade until something stops it, after some committed trades of which the last one gave
`previous`. Returns the number of committed trades and why the batch stopped. -/
def batchAfter (k : Shopkeeper) (settings : Settings) (commits : Nat) (previous : Option Stack)
    (s : Session) (scene : Scene σ) : (Nat × BatchStop) × Session × Scene σ :=
  match scene.window.result with
  | none => ((commits, .emptyResult), s, scene)
  | some result =>
    if previous.any (fun p => !p.similar result) then ((commits, .resultChanged), s, scene)
    else
      match scene.inventory.storage.addInClientOrder result with
      | (storage, left) =>
        if left ≠ 0 then ((commits, .insufficientSpace), s, scene)
        else
          match h : s.attempt k settings (.storage storage) scene with
          | (.idle why, s, scene) => ((commits, .idle why), s, scene)
          | (.aborted reason, s, scene) => ((commits, .aborted reason), s, scene)
          | (.committed _, s, scene) => batchAfter k settings (commits + 1) (some result) s scene
termination_by scene.window.offered.total
decreasing_by exact offered_attempt_lt h

/-- Trade as often as possible. -/
def batch (s : Session) (k : Shopkeeper) (settings : Settings) (scene : Scene σ) :
    (Nat × BatchStop) × Session × Scene σ :=
  batchAfter k settings 0 none s scene

end Session

end Bazaar
