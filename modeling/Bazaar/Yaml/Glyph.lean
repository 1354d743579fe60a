/-! # Characters with their places

Indentation decides how markup nests, so every character of a text is kept with its line and column.
-/

namespace Bazaar.Yaml

/-- A character and where it stands. -/
structure Glyph where
  char : Char
  line : Nat
  column : Nat
  deriving DecidableEq

def isBreak (c : Char) : Bool := c = '\n' || c = '\u2028' || c = '\u2029'

def isBlank (c : Char) : Bool := c = ' ' || c = '\t'

/-- Characters that may occur in markup: tabs, line breaks and whatever can be seen. -/
def isAllowed (c : Char) : Bool :=
  let n := c.toNat
  n = 9 || n = 10 || n = 13 || (32 ≤ n && n ≤ 126) || n = 0x85 || (0xA0 ≤ n && n ≤ 0xD7FF) ||
    (0xE000 ≤ n && n ≤ 0xFFFD && n ≠ 0xFEFF) || 0x10000 ≤ n

/-- Write every line break, other than the line and paragraph separators, as a line feed. -/
def normalizeBreaks : List Char → List Char
  | '\r' :: '\n' :: r => '\n' :: normalizeBreaks r
  | '\r' :: r => '\n' :: normalizeBreaks r
  | '\u0085' :: r => '\n' :: normalizeBreaks r
  | c :: r => c :: normalizeBreaks r
  | [] => []

def locate (line column : Nat) : List Char → List Glyph
  | [] => []
  | c :: r =>
    { char := c, line, column } ::
      (if isBreak c then locate (line + 1) 0 r else locate line (column + 1) r)

/-- The characters of a text, without a byte order mark at its start. There are none if one of
them is not allowed. -/
def glyphs? (s : String) : Option (List Glyph) :=
  let cs := match s.toList with
    | '\ufeff' :: r => r
    | cs => cs
  if cs.all isAllowed then some (locate 0 0 (normalizeBreaks cs)) else none

/-- The next character is a blank or a line break, or there is none. -/
def endsWord : List Glyph → Bool
  | [] => true
  | g :: _ => isBlank g.char || isBreak g.char

/-- A line starts with three times the same mark and nothing joined to it. -/
def isDocumentMark (mark : Char) : List Glyph → Bool
  | a :: b :: c :: r =>
    a.column = 0 && a.char = mark && b.char = mark && c.char = mark && endsWord r
  | _ => false

def isDocumentLine (gs : List Glyph) : Bool := isDocumentMark '-' gs || isDocumentMark '.' gs

end Bazaar.Yaml
