import Bazaar.Numeral

/-! # Decimal numbers

Numbers with a fraction or an exponent are never computed with, but numbers that are too large for
double precision are told from those that are not.
-/

namespace Bazaar

/-- The number `significand * 10 ^ exponent`. -/
structure Decimal where
  significand : Nat
  exponent : Int
  deriving DecidableEq

namespace Decimal

/-- The least number that double precision rounds to infinity. It lies halfway between the largest
finite one and the power of two behind it. -/
def overflow : Nat := Nat.pow 2 1024 - Nat.pow 2 970

def isBelow (d : Decimal) (n : Nat) : Bool :=
  if d.exponent < 0 then d.significand < n * Nat.pow 10 (-d.exponent).toNat
  else d.significand * Nat.pow 10 d.exponent.toNat < n

/-- Double precision rounds the number to a finite one. Since `overflow` has 309 digits, powers are
computed only for numbers of that many. -/
def isFinite (d : Decimal) : Bool :=
  let size := d.exponent + (Nat.repr d.significand).length
  d.significand = 0 || size < 309 || (size = 309 && d.isBelow overflow)

/-- An exponent with its mark and an optional sign; zero if it is left out. -/
def exponent? : List Char → Option Int
  | [] => some 0
  | mark :: cs =>
    if mark = 'e' || mark = 'E' then
      match cs with
      | '-' :: cs => (Numeral.read? 10 cs).map fun n => -(n : Int)
      | '+' :: cs => (Numeral.read? 10 cs).map Int.ofNat
      | cs => (Numeral.read? 10 cs).map Int.ofNat
    else none

/-- Read a number without sign: digits, with a point before, among or behind them, and an
exponent. Only the digits have to be there. -/
def read? (cs : List Char) : Option Decimal := do
  let whole := cs.takeWhile Char.isDigit
  let (places, rest) := match cs.dropWhile Char.isDigit with
    | '.' :: r => (r.takeWhile Char.isDigit, r.dropWhile Char.isDigit)
    | r => ([], r)
  let significand ← Numeral.read? 10 (whole ++ places)
  let exponent ← exponent? rest
  return { significand, exponent := exponent - places.length }

end Decimal

end Bazaar
