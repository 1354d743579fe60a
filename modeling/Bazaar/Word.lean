import Bazaar.Buffered
import Bazaar.Decimal

/-! # Words

The meaning of a scalar without quotes depends on what is expected of it: the word `5` is a number
where a number is expected, and a text where a text is. Where nothing particular is expected, it is
read as the first of null, truth value, number and text that it can be.
-/

namespace Bazaar.Word

def bool? (s : String) : Option Bool :=
  if s ∈ ["true", "True", "TRUE"] then some true
  else if s ∈ ["false", "False", "FALSE"] then some false
  else none

def isNull (s : String) : Bool := s ∈ ["", "~", "null", "Null", "NULL"]

/-- A number without sign. Decimal numbers have no leading zero, other bases have a lower-case
mark in front. -/
def unsigned? : List Char → Option Nat
  | ['0'] => some 0
  | '0' :: 'x' :: cs => Numeral.read? 16 cs
  | '0' :: 'o' :: cs => Numeral.read? 8 cs
  | '0' :: 'b' :: cs => Numeral.read? 2 cs
  | '0' :: _ => none
  | cs => Numeral.read? 10 cs

/-- The natural number that a word stands for; it may have a plus sign. -/
def nat? (s : String) : Option Nat :=
  match s.toList with
  | '+' :: cs => unsigned? cs
  | cs => unsigned? cs

def int? (s : String) : Option Int :=
  match s.toList with
  | '-' :: cs => (unsigned? cs).map fun n => -(n : Int)
  | _ => (nat? s).map Int.ofNat

def unsign : List Char → List Char
  | '+' :: cs | '-' :: cs => cs
  | cs => cs

/-- More than one digit, the first of which is zero. -/
def isPadded : List Char → Bool
  | '0' :: c :: cs => (c :: cs).all Char.isDigit
  | _ => false

/-- A word for a number that need not be whole: a finite decimal number, or one of the names of the
infinities and of no number. -/
def isReal (s : String) : Bool :=
  let cs := unsign s.toList
  (!isPadded cs && (Decimal.read? cs).any Decimal.isFinite) ||
    String.ofList cs ∈ [".inf", ".Inf", ".INF"] || s ∈ [".nan", ".NaN", ".NAN"]

/-- A word that stands for no integer. -/
def realOrText (s : String) : Buffered := if isReal s then .real s else .text s

/-- The number of values of 128 bits. -/
def wide : Nat := UInt64.size * UInt64.size

/-- What a word stands for when nothing particular is expected of it. Integers that need more than
64 bits but no more than 128 are refused. -/
def resolve? (s : String) : Option Buffered :=
  if isNull s then some .null
  else match bool? s with
    | some b => some (.bool b)
    | none =>
      match nat? s, int? s with
      | some n, _ =>
        if n < UInt64.size then some (.nat n)
        else if n < wide then none
        else some (realOrText s)
      | none, some n =>
        if Int64.minValue.toInt ≤ n then some (.int n)
        else if (-n).toNat ≤ wide / 2 then none
        else some (realOrText s)
      | none, none => some (realOrText s)

end Bazaar.Word
