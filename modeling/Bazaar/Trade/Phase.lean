/-! # Phases of a trade attempt -/

namespace Bazaar

/-- How far a trade attempt has come. -/
inductive Phase
  | idle | matched | prepared | notified | applied | aborted
  deriving DecidableEq

namespace Phase

/-- An attempt goes through the phases one by one and may be aborted from when it is matched until
it is applied. -/
def canMoveTo : Phase → Phase → Bool
  | idle, matched | matched, prepared | prepared, notified | notified, applied => true
  | matched, aborted | prepared, aborted | notified, aborted => true
  | _, _ => false

def isTerminal (p : Phase) : Bool := p = applied || p = aborted

end Phase

end Bazaar
