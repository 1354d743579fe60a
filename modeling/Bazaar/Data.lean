/-! # Data trees

Every value is written as a tree of nulls, truth values, numbers, texts, lists and records.
-/

namespace Bazaar

/-- A tree of plain data. -/
inductive Data
  | null
  | bool (b : Bool)
  | int (n : Int)
  /-- A number written with a fraction or an exponent, as it is written. -/
  | real (written : String)
  | text (s : String)
  | list (items : List Data)
  | record (fields : List (String × Data))

end Bazaar
