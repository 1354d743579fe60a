import Bazaar.Session.Batch

/-! # The exchange

The exchange keeps a session for each actor and answers their gestures. Only gestures on the
result slot trade:

* a pickup trades once onto the cursor,
* a hotbar swap trades once into an empty hotbar slot,
* a bulk move trades as often as possible into the storage.

Copying the result and collecting onto the cursor are left to the window. Collecting is refused
on every slot while the cursor holds the result item.
-/

namespace Bazaar

/-- Why a gesture was not processed. -/
inductive Ignored
  | noSession | windowClosed | notResultSlot | cloneStack | notHandled
  deriving DecidableEq

/-- What became of a gesture. -/
inductive GestureOutcome
  | ignored (why : Ignored)
  /-- An echo of an earlier gesture. -/
  | synthetic
  /-- A gesture that has to be undone. -/
  | unsupported
  | traded (commits : Nat)
  deriving DecidableEq

def Scene.cursorHoldsResult {σ : Type} (scene : Scene σ) : Bool :=
  match scene.inventory.cursor, scene.window.result with
  | some c, some r => c.similar r
  | _, _ => false

variable {σ : Type} [Storage σ]

/-- Display the recipes that the shop offers now, if they differ from the displayed ones, and tell
the listeners. -/
def Scene.refresh (scene : Scene σ) (k : Shopkeeper) (settings : Settings) (actor : ActorId) :
    Scene σ :=
  let (recipes, container) := k.recipes settings.currency scene.container
  let window := if recipes = scene.window.recipes then scene.window else scene.window.update recipes
  { scene with window, container }.emit (.recipesChanged k.profile.id actor)

namespace Session

/-- Trade once with a payout for the displayed result, if there is one. Returns the number of
committed trades. -/
def single (s : Session) (k : Shopkeeper) (settings : Settings) (payout? : Stack → Option Payout)
    (scene : Scene σ) : Nat × Session × Scene σ :=
  match scene.window.result.bind payout? with
  | none => (0, s, scene)
  | some payout =>
    match s.attempt k settings payout scene with
    | (.committed _, s, scene) => (1, s, scene)
    | (_, s, scene) => (0, s, scene)

/-- The trades of a gesture on the result slot, by the kind of gesture. -/
def trade (s : Session) (k : Shopkeeper) (settings : Settings) (g : Gesture) (scene : Scene σ) :
    Except GestureOutcome (Nat × Session × Scene σ) :=
  match g.kind with
  | .cloneStack => .error (.ignored .cloneStack)
  | .collectToCursor => .error (.ignored .notHandled)
  | .pickupAll | .pickupHalf => .ok (s.single k settings scene.inventory.cursorPayout? scene)
  | .hotbarSwap => .ok (s.single k settings (scene.inventory.hotbarPayout? g.button) scene)
  | .moveToOther =>
    match s.batch k settings scene with
    | ((commits, _), s, scene) => .ok (commits, s, scene)
  | .dropOne | .dropAll | .placeAll | .other => .error .unsupported

/-- Answer a gesture on an open window. -/
def handle (s : Session) (k : Shopkeeper) (settings : Settings) (g : Gesture) (scene : Scene σ) :
    GestureOutcome × Session × Scene σ :=
  match s.echo.classify g with
  | (.synthetic, echo) => (.synthetic, { s with echo }, scene)
  | (.manual, echo) =>
    let s := { s with echo }
    if g.kind = .collectToCursor ∧ scene.cursorHoldsResult then (.unsupported, s, scene)
    else if !g.targetsResult then (.ignored .notResultSlot, s, scene)
    else
      let s := s.beginGesture
      match s.trade k settings g scene with
      | .error outcome => (outcome, s, scene)
      | .ok (commits, s, scene) =>
        if commits = 0 then (.traded 0, s, scene)
        else (.traded commits, s, scene.refresh k settings s.actor.id)

end Session

/-- The open sessions, under common settings. -/
structure Exchange where
  settings : Settings
  sessions : ActorId → Option Session := fun _ => none

namespace Exchange

def withSession (x : Exchange) (id : ActorId) (s : Option Session) : Exchange :=
  { x with sessions := fun i => if i = id then s else x.sessions i }

/-- Start a session for an actor, in place of an earlier one. -/
def openSession (x : Exchange) (actor : Actor) : Exchange :=
  x.withSession actor.id (some (.start actor x.settings))

def closeSession (x : Exchange) (id : ActorId) : Exchange := x.withSession id none

/-- Answer a gesture of an actor on the window of a scene. -/
def handle (x : Exchange) (id : ActorId) (k : Shopkeeper) (g : Gesture) (scene : Scene σ) :
    GestureOutcome × Exchange × Scene σ :=
  match x.sessions id with
  | none => (.ignored .noSession, x, scene)
  | some s =>
    if !scene.window.isOpenFor s.actor.id then (.ignored .windowClosed, x, scene)
    else
      let (outcome, s, scene) := s.handle k x.settings g scene
      (outcome, x.withSession id (some s), scene)

end Exchange

end Bazaar
