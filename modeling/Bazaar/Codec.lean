import Bazaar.Amount
import Bazaar.Id
import Bazaar.Source
import Bazaar.Table

/-! # Writing values as data and reading them back

A structure is written as a record of all its fields. When it is read, fields with a default may
be missing, optional ones may also be null, unknown ones are passed over, and no field that is
read may occur twice. A list of fields has no names to miss, so it leaves out only fields with a
default.
-/

namespace Bazaar

/-- Types whose values are written as data. -/
class Encode (α : Type) where
  encode : α → Data

/-- Types whose values are read from trees of any sort. -/
class Decode (α : Type) where
  decode? {τ : Type} [Source τ] : τ → Option α

/-- Types whose values are written as data and read back. -/
class Codec (α : Type) extends Encode α, Decode α

export Encode (encode)
export Decode (decode?)

/-! ## Numbers, truth values and texts -/

instance : Codec Nat where
  encode n := .int n
  decode? := Source.nat?

instance : Codec Amount where
  encode a := .int a.val
  decode? d := (Source.nat? d).bind Amount.ofNat?

instance : Codec UInt8 where
  encode n := .int n.toNat
  decode? d := (Source.nat? d).bind fun n => if n < UInt8.size then some (UInt8.ofNat n) else none

instance : Codec UInt64 where
  encode n := .int n.toNat
  decode? d := (Source.nat? d).bind fun n => if n < UInt64.size then some (UInt64.ofNat n) else none

instance : Codec Int32 where
  encode n := .int n.toInt
  decode? d := (Source.int? d).bind fun n =>
    if Int32.minValue.toInt ≤ n ∧ n ≤ Int32.maxValue.toInt then some (Int32.ofInt n) else none

instance : Codec Bool where
  encode := .bool
  decode? := Source.bool?

instance : Codec String where
  encode := .text
  decode? := Source.text?

instance {sort : Named} : Codec (Id sort) where
  encode i := .text i.uuid.render
  decode? d := ((Source.text? d).bind Uuid.parse?).map Id.mk

/-! ## Values that may be missing, lists and tables -/

variable {α τ : Type}

instance [Encode α] : Encode (Option α) where
  encode
    | none => .null
    | some a => encode a

instance [Decode α] : Decode (Option α) where
  decode? d := if Source.isNull d then some none else (decode? d).map some

instance [Encode α] : Encode (List α) where
  encode l := .list (l.map encode)

instance [Decode α] : Decode (List α) where
  decode? d := (Source.items? d).bind fun items => items.mapM decode?

instance [Encode α] : Encode (Table α) where
  encode t := .record (t.entries.map fun e => (e.1, encode e.2))

instance [Decode α] : Decode (Table α) where
  decode? d := (Source.entries? d).bind fun entries =>
    (entries.mapM fun e => (decode? e.2).map (e.1, ·)).map Table.ofList

/-! ## Structures -/

namespace Fields

/-- The tree of a field, where there is one. Refuses a field that occurs twice. -/
def value? (fs : Fields τ) (name : String) : Option (Option τ) :=
  match fs.entries.filter fun e => e.1 = name with
  | [] => some none
  | [e] => some (some e.2)
  | _ => none

variable [Source τ] [Decode α]

def required (fs : Fields τ) (name : String) : Option α :=
  match fs.value? name with
  | some (some d) => decode? d
  | _ => none

def withDefault (fs : Fields τ) (name : String) (default : α) : Option α :=
  match fs.value? name with
  | some (some d) => decode? d
  | some none => some default
  | none => none

/-- Read a field that may be missing or null. -/
def optional (fs : Fields τ) (name : String) : Option (Option α) := fs.withDefault name none

/-- Read a field that may be null, and missing where fields have names. -/
def nullable (fs : Fields τ) (name : String) : Option (Option α) :=
  if fs.positional then fs.required name else fs.optional name

end Fields

variable [Source τ]

def readRecord (names : List String) (read : Fields τ → Option α) (d : τ) : Option α :=
  (Source.fields? names d).bind read

def readName (name : α → String) (all : List α) (d : τ) : Option α :=
  match Source.choice? (all.map name) d with
  | some (s, content) =>
    if content.all Source.isUnit then all.find? fun a => name a = s else none
  | none => none

end Bazaar
