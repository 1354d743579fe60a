import Bazaar.Codec
import Bazaar.Gesture

/-! # Gestures as data -/

namespace Bazaar

namespace GestureKind

def name : GestureKind → String
  | pickupAll => "PickupAll"
  | pickupHalf => "PickupHalf"
  | hotbarSwap => "HotbarSwap"
  | moveToOther => "MoveToOtherInventory"
  | collectToCursor => "CollectToCursor"
  | cloneStack => "CloneStack"
  | dropOne => "DropOneSlot"
  | dropAll => "DropAllSlot"
  | placeAll => "PlaceAll"
  | other => "Other"

def all : List GestureKind :=
  [pickupAll, pickupHalf, hotbarSwap, moveToOther, collectToCursor, cloneStack, dropOne, dropAll,
    placeAll, other]

instance : Codec GestureKind where
  encode k := .text k.name
  decode? := readName name all

end GestureKind

instance : Codec Gesture where
  encode g := .record [("slot", encode g.slot), ("kind", encode g.kind),
    ("timestamp_ms", encode g.timestamp), ("hotbar_button", encode g.button)]
  decode? := readRecord ["slot", "kind", "timestamp_ms", "hotbar_button"] fun fs => do
    let slot ← fs.required "slot"
    let kind ← fs.required "kind"
    let timestamp ← fs.required "timestamp_ms"
    let button ← fs.optional "hotbar_button"
    return { slot, kind, timestamp, button }

end Bazaar
