import Bazaar.Date
import Bazaar.Numeral
import Bazaar.Space

/-! # Instants

An instant is a moment in universal time, written as in 2024-05-06T07:08:09Z. It is read from local
time with its offset from universal time, in a notation that leaves room for white space, short
numbers and years of any length. The sixtieth second of a minute may be a leap second.
-/

namespace Bazaar

/-- A moment in universal time. -/
structure Instant where
  date : Date
  hour : Nat
  minute : Nat
  second : Nat
  nanosecond : Nat := 0
  deriving DecidableEq

namespace Instant

/-! ## Writing -/

def padded (width n : Nat) : String :=
  let digits := Nat.toDigits 10 n
  String.ofList (List.replicate (width - digits.length) '0' ++ digits)

/-- A year of four digits stands alone, any other has a sign. -/
def yearText (year : Int) : String :=
  if 0 ≤ year ∧ year < 10000 then padded 4 year.toNat
  else (if year < 0 then "-" else "+") ++ padded 4 year.natAbs

/-- The fraction of a second in thousandths, millionths or billionths, whichever is exact. -/
def fraction (nanosecond : Nat) : String :=
  if nanosecond = 0 then ""
  else if nanosecond % 1000000 = 0 then "." ++ padded 3 (nanosecond / 1000000)
  else if nanosecond % 1000 = 0 then "." ++ padded 6 (nanosecond / 1000)
  else "." ++ padded 9 nanosecond

def render (i : Instant) : String :=
  s!"{yearText i.date.year}-{padded 2 i.date.month}-{padded 2 i.date.day}T" ++
    s!"{padded 2 i.hour}:{padded 2 i.minute}:{padded 2 i.second}{fraction i.nanosecond}Z"

/-! ## Reading

Each function reads from the front of a text and returns the characters behind what it has read.
-/

/-- A number of one or more decimal digits, at most a given number of them. -/
def number? (width : Nat) (cs : List Char) : Option (Nat × List Char) := do
  let digits := (cs.take width).takeWhile Char.isDigit
  return (← Numeral.read? 10 digits, cs.drop digits.length)

def part? (low high : Nat) (cs : List Char) : Option (Nat × List Char) := do
  let (n, cs) ← number? 2 (skipSpace cs)
  if low ≤ n ∧ n ≤ high then some (n, cs) else none

/-- A year of at most four digits, or of any number of digits behind a sign. -/
def year? (cs : List Char) : Option (Int × List Char) :=
  match skipSpace cs with
  | '-' :: cs => (number? cs.length cs).map fun (n, cs) => (-(n : Int), cs)
  | '+' :: cs => (number? cs.length cs).map fun (n, cs) => ((n : Int), cs)
  | cs => (number? 4 cs).map fun (n, cs) => ((n : Int), cs)

/-- A mark that may have white space in front. -/
def mark? (c : Char) (cs : List Char) : Option (List Char) :=
  match skipSpace cs with
  | d :: cs => if d = c then some cs else none
  | [] => none

def date? (cs : List Char) : Option (Date × List Char) := do
  let (year, cs) ← year? cs
  let (month, cs) ← part? 1 12 (← mark? '-' cs)
  let (day, cs) ← part? 1 31 (← mark? '-' cs)
  let date : Date := { year, month, day }
  if date.isValid then some (date, cs) else none

def separator? : List Char → Option (List Char)
  | c :: cs => if c ∈ ['T', 't', ' '] then some cs else none
  | [] => none

/-- The billionths of a second behind a point, if there is one. Digits behind the ninth do not
count. -/
def nanosecond? : List Char → Option (Nat × List Char)
  | '.' :: cs => do
    let digits := (cs.takeWhile Char.isDigit).take 9
    let n ← Numeral.read? 10 digits
    return (n * Nat.pow 10 (9 - digits.length), cs.dropWhile Char.isDigit)
  | cs => some (0, cs)

/-- The limit of offsets, in minutes. -/
def minutesPerDay : Nat := 24 * 60

/-- An offset of hours and minutes without its sign, in minutes. There may be white space and
colons between them. -/
def shift? (cs : List Char) : Option (Nat × List Char) := do
  let hours ← Numeral.read? 10 (cs.take 2)
  let cs := (cs.drop 2).dropWhile fun c => c = ':' || isSpace c
  let minutes ← Numeral.read? 10 (cs.take 2)
  let shift := 60 * hours + minutes
  if 2 ≤ cs.length ∧ minutes < 60 ∧ shift < minutesPerDay then some (shift, cs.drop 2) else none

def offset? (cs : List Char) : Option (Int × List Char) :=
  if (cs.take 3).map Char.toUpper = ['U', 'T', 'C'] then some (0, cs.drop 3)
  else match cs with
    | 'Z' :: cs | 'z' :: cs => some (0, cs)
    | '+' :: cs => (shift? cs).map fun (n, cs) => ((n : Int), cs)
    | '-' :: cs | '\u2212' :: cs => (shift? cs).map fun (n, cs) => (-(n : Int), cs)
    | _ => none

/-- The moment at which clocks that are ahead by an offset show a given one. -/
def shiftBack (i : Instant) (offset : Int) : Instant :=
  let minutes : Int := (60 * i.hour + i.minute : Nat) - offset
  let date :=
    if minutes < 0 then i.date.previous
    else if minutes < minutesPerDay then i.date
    else i.date.next
  let minutes := (minutes % minutesPerDay).toNat
  { i with date, hour := minutes / 60, minute := minutes % 60 }

def years : Int × Int := (-262143, 262142)

def inRange (i : Instant) : Bool := years.1 ≤ i.date.year && i.date.year ≤ years.2

def parse? (s : String) : Option Instant := do
  let (date, cs) ← date? s.toList
  let (hour, cs) ← part? 0 23 (← separator? cs)
  let (minute, cs) ← part? 0 59 (← mark? ':' cs)
  let (second, cs) ← part? 0 60 (← mark? ':' cs)
  let (nanosecond, cs) ← nanosecond? cs
  let (offset, cs) ← offset? (skipSpace cs)
  let clock : Instant := { date, hour, minute, second, nanosecond }
  let i := clock.shiftBack offset
  if (skipSpace cs).isEmpty && clock.inRange && i.inRange then some i else none

end Instant

end Bazaar
