import Bazaar.Amount
import Bazaar.Table

/-! # Item stacks

A stack is a kind of item and an amount of it. The kind is an item type with descriptive
metadata. A stack of amount zero counts as empty wherever stacks are used.
-/

namespace Bazaar

/-- How far a written book is from its signed original. -/
inductive Generation
  | original | copyOfOriginal | copyOfCopy | tattered
  deriving DecidableEq

namespace Generation

def isCopy (g : Generation) : Bool := g ≠ .original

/-- The generation of a copy, for a book that can still be copied. -/
def copy? : Generation → Option Generation
  | .original => some .copyOfOriginal
  | .copyOfOriginal => some .copyOfCopy
  | .copyOfCopy | .tattered => none

end Generation

structure Book where
  title : Option String := none
  author : Option String := none
  generation : Generation := .original
  deriving DecidableEq

structure Metadata where
  displayName : Option String := none
  lore : List String := []
  enchantments : Table Amount := ∅
  book : Option Book := none
  custom : Table String := ∅
  deriving DecidableEq

/-- Title and generation are required of a book, the author is not. -/
def Book.covers (offered required : Book) : Bool :=
  (required.title = none || required.title = offered.title) &&
    required.generation = offered.generation

/-- The offered metadata has every core component that the required one declares: display name,
enchantments, and title and generation of a book. -/
def Metadata.covers (offered required : Metadata) : Bool :=
  (required.displayName = none || offered.displayName = required.displayName) &&
  required.enchantments.all (fun name level => offered.enchantments.get? name = some level) &&
  match required.book, offered.book with
  | none, _ => true
  | some _, none => false
  | some r, some o => o.covers r

/-- A kind of item: its type and its metadata. -/
structure Kind where
  item : String
  data : Metadata := {}
  deriving DecidableEq

/-- An amount of one kind of item, with the largest amount that one slot holds of it. -/
structure Stack where
  kind : Kind
  amount : Amount
  maxSize : Amount := 64
  deriving DecidableEq

/-- How an offered kind is compared with a required one. -/
inductive Comparison
  | strict | lenient
  deriving DecidableEq

instance : Inhabited Comparison := ⟨.lenient⟩

/-- Strict comparison wants the same kind. Lenient comparison wants the same item type and
metadata that covers the required one. -/
def Kind.satisfies (offered required : Kind) : Comparison → Bool
  | .strict => offered = required
  | .lenient => offered.item = required.item && offered.data.covers required.data

namespace Stack

def plain (item : String) (amount : Amount) : Stack := { kind := { item }, amount }

def withAmount (s : Stack) (n : Amount) : Stack := { s with amount := n }

def isEmpty (s : Stack) : Bool := s.amount = 0

theorem isEmpty_eq_false_iff {s : Stack} : s.isEmpty = false ↔ 0 < s.amount.val := by
  rw [isEmpty, decide_eq_false_iff_not, Amount.val_pos_iff]

def similar (s t : Stack) : Bool := s.kind = t.kind

def freeSpace (s : Stack) : Amount := s.maxSize - s.amount

/-- What is left after some items are taken away, if anything is. -/
def decreasedBy (s : Stack) (n : Amount) : Option Stack :=
  if s.amount - n = 0 then none else some (s.withAmount (s.amount - n))

end Stack

/-- The amount in a slot, zero when there is no stack. -/
def amountIn : Option Stack → Amount
  | none => 0
  | some s => s.amount

@[simp] theorem amountIn_none : amountIn none = 0 := rfl

@[simp] theorem amountIn_some (s : Stack) : amountIn (some s) = s.amount := rfl

/-- A slot in which an empty stack is no stack. -/
def nonEmpty? : Option Stack → Option Stack
  | none => none
  | some s => if s.isEmpty then none else some s

end Bazaar
