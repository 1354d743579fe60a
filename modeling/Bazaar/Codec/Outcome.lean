import Bazaar.Codec.Trade
import Bazaar.Exchange
import Bazaar.Trade.Phase

/-! # Names of what becomes of gestures and trades -/

namespace Bazaar

namespace Phase

def name : Phase → String
  | idle => "Idle"
  | matched => "Matched"
  | prepared => "Prepared"
  | notified => "Notified"
  | applied => "Applied"
  | aborted => "Aborted"

instance : Codec Phase where
  encode p := .text p.name
  decode? := readName name [idle, matched, prepared, notified, applied, aborted]

end Phase

namespace FailureKind

def name : FailureKind → String
  | preconditionFailed => "PreconditionFailed"
  | vetoed => "Vetoed"
  | internalInconsistency => "InternalInconsistency"
  | storageWriteFailed => "StorageWriteFailed"

instance : Codec FailureKind where
  encode k := .text k.name
  decode? := readName name
    [preconditionFailed, vetoed, internalInconsistency, storageWriteFailed]

end FailureKind

namespace Verdict

def name : Verdict → String
  | allow => "Allow"
  | deny => "Deny"

instance : Codec Verdict where
  encode v := .text v.name
  decode? := readName name [allow, deny]

end Verdict

def Idle.name : Idle → String
  | emptyResult => "EmptyResult"
  | noActiveRecipe => "NoActiveRecipe"
  | noMatch => "NoMatch"

def BatchStop.name : BatchStop → String
  | emptyResult => "EmptyResult"
  | insufficientSpace => "InsufficientSpace"
  | resultChanged => "ResultChanged"
  | idle why => s!"Idle({why.name})"
  | aborted reason => s!"Aborted({reason.name})"

def Ignored.name : Ignored → String
  | noSession => "NoSession"
  | windowClosed => "WindowClosed"
  | notResultSlot => "NotResultSlot"
  | cloneStack => "CloneStack"
  | notHandled => "NotHandled"

def GestureOutcome.name : GestureOutcome → String
  | ignored why => s!"Ignored({why.name})"
  | synthetic => "Synthetic"
  | unsupported => "Unsupported"
  | traded commits => s!"Traded \x7b commits: {commits} \x7d"

end Bazaar
