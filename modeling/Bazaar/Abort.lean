/-! # Why trades are aborted -/

namespace Bazaar

/-- The reason why a trade attempt was given up. -/
inductive AbortReason
  /-- The actor owns the shop. -/
  | selfTrade
  /-- The owner of the shop is present. -/
  | ownerOnline
  /-- The container is missing or out of reach. -/
  | missingContainer
  /-- No offer stands behind the recipe. -/
  | unexpectedTrade
  /-- The container lacks what the trade takes out. -/
  | insufficientStock
  /-- No blank book is left to copy into. -/
  | insufficientWritableBooks
  /-- The container has no room for what the trade puts in. -/
  | insufficientStorageSpace
  /-- A listener denied the trade. -/
  | vetoed
  /-- The selected recipe and the displayed result differ. -/
  | internalInconsistency
  /-- A storage refused a write. -/
  | storageWriteFailed
  deriving DecidableEq

/-- The coarse kind of a failure. -/
inductive FailureKind
  | preconditionFailed | vetoed | internalInconsistency | storageWriteFailed
  deriving DecidableEq

namespace AbortReason

def all : List AbortReason :=
  [.selfTrade, .ownerOnline, .missingContainer, .unexpectedTrade, .insufficientStock,
    .insufficientWritableBooks, .insufficientStorageSpace, .vetoed, .internalInconsistency,
    .storageWriteFailed]

def kind : AbortReason → FailureKind
  | .selfTrade | .ownerOnline | .missingContainer | .unexpectedTrade | .insufficientStock
  | .insufficientWritableBooks | .insufficientStorageSpace => .preconditionFailed
  | .vetoed => .vetoed
  | .internalInconsistency => .internalInconsistency
  | .storageWriteFailed => .storageWriteFailed

/-- A short stable name. -/
def tag : AbortReason → String
  | .selfTrade => "self-trade"
  | .ownerOnline => "owner-online"
  | .missingContainer => "missing-container"
  | .unexpectedTrade => "unexpected-trade"
  | .insufficientStock => "insufficient-stock"
  | .insufficientWritableBooks => "insufficient-writable-books"
  | .insufficientStorageSpace => "insufficient-storage-space"
  | .vetoed => "vetoed"
  | .internalInconsistency => "internal-inconsistency"
  | .storageWriteFailed => "storage-write-failed"

def message : AbortReason → String
  | .selfTrade => "You cannot trade with your own shop."
  | .ownerOnline => "You cannot trade with this shop while its owner is online."
  | .missingContainer => "This shop's container is missing."
  | .unexpectedTrade => "This trade is no longer available."
  | .insufficientStock => "This shop is out of stock."
  | .insufficientWritableBooks => "This shop has no blank books left to copy into."
  | .insufficientStorageSpace => "This shop cannot hold any more items."
  | .vetoed => "The trade was cancelled."
  | .internalInconsistency | .storageWriteFailed => "The trade could not be completed."

end AbortReason

end Bazaar
