import Bazaar.Buffered

/-! # What values are read from

Values are read from several sorts of trees, which differ in what they take for a number, a text, a
list or a structure. Data trees give the fields of a structure by name or, in a list, by their
order. Buffered trees also name a field by its place in that order.
-/

namespace Bazaar

/-- The fields of a structure that is being read. -/
structure Fields (τ : Type) where
  entries : List (String × τ)
  /-- The fields were given in their order, without names. -/
  positional : Bool

/-- The fields of a structure with given names, in their order. The last ones may be left out. -/
def Fields.ofItems? {τ : Type} (names : List String) (items : List τ) : Option (Fields τ) :=
  if items.length ≤ names.length then some { entries := names.zip items, positional := true }
  else none

/-- Trees that values are read from. -/
class Source (τ : Type) where
  /-- The tree stands for a value that is left out. -/
  isNull : τ → Bool
  /-- The tree stands for the content of a choice that has none. -/
  isUnit : τ → Bool
  nat? : τ → Option Nat
  int? : τ → Option Int
  bool? : τ → Option Bool
  text? : τ → Option String
  items? : τ → Option (List τ)
  /-- The entries of a table with text keys. -/
  entries? : τ → Option (List (String × τ))
  /-- The fields of a structure whose fields have the given names. -/
  fields? (names : List String) : τ → Option (Fields τ)
  /-- One of several choices of the given names, perhaps with a content. -/
  choice? (names : List String) : τ → Option (String × Option τ)
  /-- The tree in the form in which it is kept. -/
  buffer? : τ → Option Buffered

namespace Data

instance : Source Data where
  isNull
    | .null => true
    | _ => false
  isUnit
    | .null => true
    | _ => false
  nat?
    | .int n => if 0 ≤ n then some n.toNat else none
    | _ => none
  int?
    | .int n => some n
    | _ => none
  bool?
    | .bool b => some b
    | _ => none
  text?
    | .text s => some s
    | _ => none
  items?
    | .list items => some items
    | _ => none
  entries?
    | .record fields => some fields
    | _ => none
  fields? names
    | .record fields => some { entries := fields, positional := false }
    | .list items => Fields.ofItems? names items
    | _ => none
  choice? _
    | .text s => some (s, none)
    | .record [(s, d)] => some (s, some d)
    | _ => none
  buffer? d := some d.buffer

end Data

namespace Buffered

/-- The key of an entry in a table. -/
def text? : Buffered → Option String
  | .text s => some s
  | _ => none

/-- The entries whose keys are names or places of names. Entries of no place are passed over. -/
def fields? (names : List String) :
    List (Buffered × Buffered) → Option (List (String × Buffered))
  | [] => some []
  | (.text s, b) :: r => (fields? names r).map ((s, b) :: ·)
  | (.nat n, b) :: r => (fields? names r).map fun fs =>
      match names[n]? with
      | some s => (s, b) :: fs
      | none => fs
  | _ => none

instance : Source Buffered where
  isNull
    | .null => true
    | _ => false
  isUnit
    | .null | .record [] => true
    | _ => false
  nat?
    | .nat n => some n
    | .int n => if 0 ≤ n then some n.toNat else none
    | _ => none
  int?
    | .nat n => some n
    | .int n => some n
    | _ => none
  bool?
    | .bool b => some b
    | _ => none
  text? := text?
  items?
    | .list items => some items
    | _ => none
  entries?
    | .record entries => entries.mapM fun e => e.1.text?.map (·, e.2)
    | _ => none
  fields? names
    | .record entries => (fields? names entries).map ({ entries := ·, positional := false })
    | .list items => Fields.ofItems? names items
    | _ => none
  choice? names
    | .text s => some (s, none)
    | .record [(.text s, b)] => some (s, some b)
    | .record [(.nat n, b)] => names[n]?.map (·, some b)
    | _ => none
  buffer? := some

end Buffered

end Bazaar
