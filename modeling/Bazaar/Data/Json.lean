import Bazaar.Data

/-! # Data as JSON text -/

namespace Bazaar

namespace Json

def controlCode (c : Char) : String :=
  String.ofList ['\\', 'u', '0', '0', Nat.digitChar (c.toNat / 16), Nat.digitChar (c.toNat % 16)]

/-- A character inside a quoted text. Only quotes, backslashes and control characters are
escaped. -/
def escape (c : Char) : String :=
  match c.toNat with
  | 34 => "\\\""
  | 92 => "\\\\"
  | 8 => "\\b"
  | 9 => "\\t"
  | 10 => "\\n"
  | 12 => "\\f"
  | 13 => "\\r"
  | n => if n < 32 then controlCode c else String.singleton c

def quote (s : String) : String :=
  "\"" ++ s.foldl (fun out c => out ++ escape c) "" ++ "\""

/-- A value that is neither list nor record. -/
def leaf : Data → String
  | .null | .list _ | .record _ => "null"
  | .bool b => if b then "true" else "false"
  | .int n => toString n
  | .real written => written
  | .text s => quote s

def inline (opening closing : String) (items : List String) : String :=
  opening ++ String.intercalate "," items ++ closing

/-- Items between brackets on lines of their own, at some depth of indentation. -/
def block (opening closing : String) (depth : Nat) (items : List String) : String :=
  if items.isEmpty then opening ++ closing
  else
    let line (d : Nat) := "\n" ++ String.ofList (List.replicate (2 * d) ' ')
    opening ++ line (depth + 1) ++ String.intercalate ("," ++ line (depth + 1)) items ++
      line depth ++ closing

end Json

namespace Data

open Json

mutual

/-- The tree on one line without spaces. -/
def compact : Data → String
  | .list items => inline "[" "]" (compactItems items)
  | .record fields => inline "\x7b" "\x7d" (compactFields fields)
  | d => leaf d

def compactItems : List Data → List String
  | [] => []
  | d :: r => compact d :: compactItems r

def compactFields : List (String × Data) → List String
  | [] => []
  | (k, d) :: r => (quote k ++ ":" ++ compact d) :: compactFields r

end

mutual

/-- The tree on several lines, indented by two spaces for each level. -/
def pretty (depth : Nat) : Data → String
  | .list items => block "[" "]" depth (prettyItems (depth + 1) items)
  | .record fields => block "\x7b" "\x7d" depth (prettyFields (depth + 1) fields)
  | d => leaf d

def prettyItems (depth : Nat) : List Data → List String
  | [] => []
  | d :: r => pretty depth d :: prettyItems depth r

def prettyFields (depth : Nat) : List (String × Data) → List String
  | [] => []
  | (k, d) :: r => (quote k ++ ": " ++ pretty depth d) :: prettyFields depth r

end

end Data

end Bazaar
