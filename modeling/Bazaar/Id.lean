import Bazaar.Numeral

/-! # Identifiers

Actors, shops, trades and ledger entries are named by 128-bit identifiers, written as 32
hexadecimal digits in groups of 8, 4, 4, 4 and 12.
-/

namespace Bazaar

/-- A 128-bit identifier as its 32 hexadecimal digits, most significant first. -/
structure Uuid where
  digits : List (Fin 16)
  length_eq : digits.length = 32
  deriving DecidableEq

namespace Uuid

def digit? (c : Char) : Option (Fin 16) := (Numeral.digit? 16 c).map (Fin.ofNat 16)

def digitChar (d : Fin 16) : Char := Nat.digitChar d.val

def ofDigits? (cs : List Char) : Option Uuid :=
  match cs.mapM digit? with
  | some ds => if h : ds.length = 32 then some ⟨ds, h⟩ else none
  | none => none

/-- The lengths of the digit groups that a hyphen follows. -/
def groups : List Nat := [8, 4, 4, 4]

def hyphenate : List Nat → List Char → List Char
  | [], cs => cs
  | n :: ns, cs => cs.take n ++ '-' :: hyphenate ns (cs.drop n)

/-- Take away the hyphen after each group; refuses a text without a hyphen there. -/
def unhyphenate? : List Nat → List Char → Option (List Char)
  | [], cs => some cs
  | n :: ns, cs =>
    match cs.drop n with
    | '-' :: r => (unhyphenate? ns r).map (cs.take n ++ ·)
    | _ => none

def ofGroups? (cs : List Char) : Option Uuid :=
  (unhyphenate? groups cs).bind ofDigits?

def scheme : String := "urn:uuid:"

/-- Read an identifier: 32 plain digits, or hyphenated groups that stand alone, in braces or
after the name of the identifier scheme in letters of either case. -/
def parse? (s : String) : Option Uuid :=
  let cs := s.toList
  match cs.length with
  | 32 => ofDigits? cs
  | 36 => ofGroups? cs
  | 38 =>
    if cs.head? = some '\x7b' ∧ cs.getLast? = some '\x7d'
    then ofGroups? (cs.drop 1).dropLast else none
  | 45 => if (cs.take 9).map Char.toLower = scheme.toList then ofGroups? (cs.drop 9) else none
  | _ => none

/-- The written form: lower-case digits in hyphenated groups. -/
def render (u : Uuid) : String :=
  String.ofList (hyphenate groups (u.digits.map digitChar))

def lowDigits : Nat → Nat → List (Fin 16)
  | 0, _ => []
  | k + 1, n => lowDigits k (n / 16) ++ [Fin.ofNat 16 n]

theorem length_lowDigits (k n : Nat) : (lowDigits k n).length = k := by
  induction k generalizing n with
  | zero => rfl
  | succ k ih => simp [lowDigits, ih]

def ofNat (n : Nat) : Uuid := ⟨lowDigits 32 n, length_lowDigits 32 n⟩

end Uuid

inductive Named
  | actor | shop | trade | entry

/-- An identifier of one sort of thing. -/
structure Id (sort : Named) where
  uuid : Uuid
  deriving DecidableEq

abbrev ActorId := Id .actor
abbrev ShopId := Id .shop
abbrev TradeId := Id .trade
abbrev EntryId := Id .entry

def Id.ofNat {sort : Named} (n : Nat) : Id sort := ⟨Uuid.ofNat n⟩

instance {sort : Named} : Inhabited (Id sort) := ⟨.ofNat 0⟩

end Bazaar
