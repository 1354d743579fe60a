import Bazaar.Inventory
import Bazaar.Shopkeeper
import Bazaar.Trade
import Bazaar.Window

/-! # Scenes

A scene is everything around one actor and one shop that a gesture can look at or change: the
window, the inventory, the container, a listener who may deny trades, and a journal.
-/

namespace Bazaar

inductive Verdict
  | allow | deny
  deriving DecidableEq

/-- What has happened in a scene so far, oldest first. -/
structure Journal where
  /-- The trades that were put before the listener. -/
  reviews : List PendingTrade := []
  events : List Event := []
  /-- How often the shop was told of an applied trade. -/
  applied : Nat := 0
  /-- How often the shop was told of an aborted trade. -/
  aborted : Nat := 0
  /-- How many trade ids were given out. -/
  issued : Nat := 0
  deriving DecidableEq

/-- Everything that a gesture can look at or change. -/
structure Scene (σ : Type) where
  window : Window
  inventory : Inventory
  container : Option σ
  /-- The listener's answer to a trade, which may depend on the earlier ones. -/
  listener : List PendingTrade → PendingTrade → Verdict
  /-- The supply of trade ids. -/
  ids : Nat → TradeId
  journal : Journal := {}

namespace Scene

variable {σ : Type}

def emit (s : Scene σ) (e : Event) : Scene σ :=
  { s with journal := { s.journal with events := s.journal.events ++ [e] } }

def nextId (s : Scene σ) : TradeId := s.ids s.journal.issued

/-- The scene once its next trade id is in use. -/
def issue (s : Scene σ) : Scene σ :=
  { s with journal := { s.journal with issued := s.journal.issued + 1 } }

def review (s : Scene σ) (t : PendingTrade) : Verdict × Scene σ :=
  (s.listener s.journal.reviews t,
    { s with journal := { s.journal with reviews := s.journal.reviews ++ [t] } })

/-- Give up a matched trade: the shop is told, then the listeners. -/
def abort (s : Scene σ) (t : Trade) (reason : AbortReason) : Scene σ :=
  { s with journal := { s.journal with
      events := s.journal.events ++ [.aborted (t.aborted reason)]
      aborted := s.journal.aborted + 1 } }

/-- Finish a matched trade: the shop is told, then the listeners. -/
def apply (s : Scene σ) (t : Trade) : Scene σ :=
  { s with journal := { s.journal with
      events := s.journal.events ++ [.committed t.committed]
      applied := s.journal.applied + 1 } }

end Scene

end Bazaar
