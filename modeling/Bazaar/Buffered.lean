import Bazaar.Data

/-! # Buffered trees

A tree whose meaning is decided by something that comes after it is kept until then. What its
scalars stand for is settled without knowing what will be expected of them, and any tree may be the
key of a record.
-/

namespace Bazaar

/-- A tree that is kept until it is known what it is read as. -/
inductive Buffered
  | null
  | bool (b : Bool)
  /-- A number without sign. -/
  | nat (n : Nat)
  /-- A number with a minus sign. -/
  | int (n : Int)
  | real (written : String)
  | text (s : String)
  | list (items : List Buffered)
  | record (entries : List (Buffered × Buffered))

namespace Data

mutual

def buffer : Data → Buffered
  | .null => .null
  | .bool b => .bool b
  | .int n => if 0 ≤ n then .nat n.toNat else .int n
  | .real written => .real written
  | .text s => .text s
  | .list items => .list (bufferItems items)
  | .record fields => .record (bufferFields fields)

def bufferItems : List Data → List Buffered
  | [] => []
  | d :: r => buffer d :: bufferItems r

def bufferFields : List (String × Data) → List (Buffered × Buffered)
  | [] => []
  | (k, d) :: r => (.text k, buffer d) :: bufferFields r

end

end Data

end Bazaar
