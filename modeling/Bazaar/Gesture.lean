/-! # Gestures on a trading window

Some clients answer one bulk move with further bulk moves on other slots. Such an echo is
recognised by the slot and the time of the last gesture that was no echo itself.
-/

namespace Bazaar

inductive GestureKind
  | pickupAll | pickupHalf | hotbarSwap | moveToOther | collectToCursor | cloneStack
  | dropOne | dropAll | placeAll | other
  deriving DecidableEq

/-- The gesture asks for as many trades as possible. -/
def GestureKind.isBulk (k : GestureKind) : Bool := k = .moveToOther

/-- One input event on a trading window. -/
structure Gesture where
  slot : Int32
  kind : GestureKind
  /-- Arrival time in milliseconds. -/
  timestamp : UInt64
  /-- The hotbar button of a swap. -/
  button : Option UInt8 := none
  deriving DecidableEq

/-- The number of the result slot of a window; the two offered slots have numbers 0 and 1. -/
def resultSlot : Int32 := 2

def Gesture.targetsResult (g : Gesture) : Bool := g.slot = resultSlot

/-- Whether a gesture was made by the actor or by the client alone. -/
inductive Origin
  | manual | synthetic
  deriving DecidableEq

/-- What is known of the last manual gesture, and how long echoes may follow it. -/
structure EchoFilter where
  window : UInt64
  last : Option (Int32 × UInt64) := none
  deriving DecidableEq

namespace EchoFilter

/-- A bulk move on another slot, soon after the last manual gesture. A gesture with an earlier time
than that one counts as simultaneous. -/
def isEcho (f : EchoFilter) (g : Gesture) : Bool :=
  match f.last with
  | none => false
  | some (slot, time) =>
    g.kind = .moveToOther && g.slot ≠ slot && g.timestamp.toNat - time.toNat < f.window.toNat

/-- The origin of a gesture. A manual gesture is remembered. -/
def classify (f : EchoFilter) (g : Gesture) : Origin × EchoFilter :=
  if f.isEcho g then (.synthetic, f)
  else (.manual, { f with last := some (g.slot, g.timestamp) })

end EchoFilter

end Bazaar
