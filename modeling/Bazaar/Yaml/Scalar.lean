import Bazaar.Numeral
import Bazaar.Yaml.Glyph

/-! # Scalars

A scalar is written plain, between quotes, or as an indented block of lines. Inside plain and
quoted scalars one line break reads as a space, and each further one as a line break.
-/

namespace Bazaar.Yaml

/-- The blanks and line breaks between two words of a scalar. -/
structure Gap where
  /-- The blanks before the first line break. -/
  blanks : String := ""
  /-- Whether the words are on different lines. -/
  broken : Bool := false
  /-- The first line break, unless it is escaped. -/
  first : String := ""
  further : String := ""

namespace Gap

def text (g : Gap) : String :=
  if !g.broken then g.blanks
  else if g.first = "\n" then (if g.further = "" then " " else g.further)
  else g.first ++ g.further

/-- Blanks at the start of a line are indentation. -/
def addBlank (g : Gap) (c : Char) : Gap :=
  if g.broken then g else { g with blanks := g.blanks.push c }

def addBreak (g : Gap) (c : Char) : Gap :=
  if g.broken then { g with further := g.further.push c }
  else { g with broken := true, first := String.singleton c }

/-- A line break that joins the lines. -/
def escaped : Gap := { broken := true }

end Gap

/-! ## Plain scalars -/

/-- Brackets and commas end a plain scalar inside brackets. -/
def isFlowMark (c : Char) : Bool := c ∈ [',', '[', ']', '\x7b', '\x7d']

/-- A colon that ends a plain scalar, or a bracket or comma inside brackets. -/
def endsPlain (inFlow : Bool) (c : Char) (r : List Glyph) : Bool :=
  (c = ':' && endsWord r) || (inFlow && isFlowMark c)

/-- A colon inside brackets that is joined to a mark. -/
def isStrayColon (inFlow : Bool) (c : Char) (r : List Glyph) : Bool :=
  inFlow && c = ':' && r.head?.any fun g => isFlowMark g.char || g.char = '?'

/-- Read a plain scalar, after some text and, between words, a gap. Lines that continue a scalar
outside brackets are indented at least to the margin. Returns the text and the gap behind it. -/
def plain (inFlow : Bool) (margin : Nat) (text : String) (gap : Option Gap) :
    List Glyph → Option ((String × Option Gap) × List Glyph)
  | [] => some ((text, gap), [])
  | g :: r =>
    let between := gap.getD {}
    if isBlank g.char then
      if between.broken && g.column < margin && g.char = '\t' then none
      else plain inFlow margin text (some (between.addBlank g.char)) r
    else if isBreak g.char then plain inFlow margin text (some (between.addBreak g.char)) r
    else if gap.isSome &&
        (isDocumentLine (g :: r) || g.char = '#' || (!inFlow && g.column < margin)) then
      some ((text, gap), g :: r)
    else if isStrayColon inFlow g.char r then none
    else if endsPlain inFlow g.char r then some ((text, gap), g :: r)
    else plain inFlow margin ((text ++ between.text).push g.char) none r

/-! ## Quoted scalars -/

/-- Read a scalar in single quotes, in which a quote is written twice, from behind the opening
quote. -/
def singleQuoted (text : String) (gap : Gap) : List Glyph → Option (String × List Glyph)
  | [] => none
  | g :: r =>
    if isDocumentLine (g :: r) then none
    else if isBlank g.char then singleQuoted text (gap.addBlank g.char) r
    else if isBreak g.char then singleQuoted text (gap.addBreak g.char) r
    else if g.char = '\x27' then
      match r with
      | h :: r =>
        if h.char = '\x27' then singleQuoted ((text ++ gap.text).push '\x27') {} r
        else some (text ++ gap.text, h :: r)
      | [] => some (text ++ gap.text, [])
    else singleQuoted ((text ++ gap.text).push g.char) {} r

def escapedChar? (c : Char) : Option Char :=
  [('0', '\x00'), ('a', '\x07'), ('b', '\x08'), ('t', '\t'), ('\t', '\t'), ('n', '\n'),
    ('v', '\x0b'), ('f', '\x0c'), ('r', '\r'), ('e', '\x1b'), (' ', ' '), ('\x22', '\x22'),
    ('/', '/'), ('\\', '\\'), ('N', '\u0085'), ('_', '\u00a0'), ('L', '\u2028'),
    ('P', '\u2029')].lookup c

def escapeWidth? (c : Char) : Option Nat :=
  [('x', 2), ('u', 4), ('U', 8)].lookup c

/-- What is being read inside double quotes. -/
inductive QuoteMode
  | ordinary
  /-- The character behind a backslash. -/
  | escape
  /-- The digits of an escape, with their number and the value of the earlier ones. -/
  | digits (number value : Nat)

/-- Read a scalar in double quotes, with its escapes, from behind the opening quote. -/
def doubleQuoted (text : String) (gap : Gap) :
    QuoteMode → List Glyph → Option (String × List Glyph)
  | _, [] => none
  | .ordinary, g :: r =>
    if isDocumentLine (g :: r) then none
    else if isBlank g.char then doubleQuoted text (gap.addBlank g.char) .ordinary r
    else if isBreak g.char then doubleQuoted text (gap.addBreak g.char) .ordinary r
    else if g.char = '\x22' then some (text ++ gap.text, r)
    else if g.char = '\\' then doubleQuoted (text ++ gap.text) {} .escape r
    else doubleQuoted ((text ++ gap.text).push g.char) {} .ordinary r
  | .escape, g :: r =>
    if isBreak g.char then doubleQuoted text .escaped .ordinary r
    else match escapedChar? g.char, escapeWidth? g.char with
      | some c, _ => doubleQuoted (text.push c) {} .ordinary r
      | none, some n => doubleQuoted text {} (.digits n 0) r
      | none, none => none
  | .digits number value, g :: r =>
    match Numeral.digit? 16 g.char with
    | none => none
    | some d =>
      let value := 16 * value + d
      if 1 < number then doubleQuoted text {} (.digits (number - 1) value) r
      else if value.isValidChar then doubleQuoted (text.push (Char.ofNat value)) {} .ordinary r
      else none

/-! ## Block scalars -/

/-- Which line breaks at the end of a block are kept. -/
inductive Chomp
  | strip | clip | keep

/-- The marks behind the bar or arrow of a block: how it ends and how far it is indented. -/
structure BlockHeader where
  chomp : Chomp := .clip
  indent : Option Nat := none

def chomp? : List Glyph → Option Chomp × List Glyph
  | g :: r =>
    if g.char = '+' then (some .keep, r)
    else if g.char = '-' then (some .strip, r)
    else (none, g :: r)
  | [] => (none, [])

/-- An indentation of one digit, which is not zero. -/
def indent? : List Glyph → Option (Option Nat × List Glyph)
  | g :: r =>
    if g.char.isDigit then
      if g.char = '0' then none else some (some (g.char.toNat - 48), r)
    else some (none, g :: r)
  | [] => some (none, [])

/-- The rest of a line that may hold blanks and a comment only. -/
def restOfLine? (gs : List Glyph) : Option (List Glyph) :=
  match gs.dropWhile fun g => isBlank g.char with
  | [] => some []
  | g :: r =>
    if isBreak g.char then some r
    else if g.char = '#' then some ((r.dropWhile fun g => !isBreak g.char).drop 1)
    else none

/-- Read the line of the bar or arrow, from behind it. -/
def blockHeader? (gs : List Glyph) : Option (BlockHeader × List Glyph) := do
  let (early, gs) := chomp? gs
  let (indent, gs) ← indent? gs
  let (late, gs) := if early.isNone && indent.isSome then chomp? gs else (none, gs)
  let gs ← restOfLine? gs
  return ({ chomp := (early.or late).getD .clip, indent }, gs)

/-- Read the empty lines at the start of a block whose indentation is not given. Returns the
largest indentation seen and the line breaks. -/
def leadingLines (widest : Nat) (breaks : String) :
    List Glyph → Option ((Nat × String) × List Glyph)
  | [] => some ((widest, breaks), [])
  | g :: r =>
    if g.char = ' ' then leadingLines (max widest (g.column + 1)) breaks r
    else if g.char = '\t' then none
    else if isBreak g.char then leadingLines (max widest g.column) (breaks.push g.char) r
    else some ((max widest g.column, breaks), g :: r)

structure Block where
  text : String := ""
  /-- The line break behind the last line. -/
  first : String := ""
  /-- The line breaks behind that one. -/
  further : String := ""
  /-- The last line started with a blank. -/
  indented : Bool := false

namespace Block

/-- The text before a new line. In a folded block, lines that do not start with a blank are
joined by a space. -/
def join (b : Block) (folded startsBlank : Bool) : String :=
  if folded && b.first = "\n" && !b.indented && !startsBlank then
    b.text ++ (if b.further = "" then " " else "") ++ b.further
  else b.text ++ b.first ++ b.further

def finish (b : Block) : Chomp → String
  | .strip => b.text
  | .clip => b.text ++ b.first
  | .keep => b.text ++ b.first ++ b.further

end Block

/-- Read the lines of a block that is indented to a column. -/
def blockLines (folded : Bool) (indent : Nat) (b : Block) (inLine : Bool) :
    List Glyph → Option (Block × List Glyph)
  | [] => some (b, [])
  | g :: r =>
    if inLine then
      if isBreak g.char then
        blockLines folded indent { b with first := String.singleton g.char, further := "" } false r
      else blockLines folded indent { b with text := b.text.push g.char } true r
    else if g.column < indent && g.char = ' ' then blockLines folded indent b false r
    else if g.column < indent && g.char = '\t' then none
    else if isBreak g.char then
      blockLines folded indent { b with further := b.further.push g.char } false r
    else if g.column = indent then
      let blank := isBlank g.char
      blockLines folded indent
        { text := (b.join folded blank).push g.char, indented := blank } true r
    else some (b, g :: r)

/-- Read a block scalar from behind its bar or arrow. The margin is where the surrounding block
would continue. -/
def blockScalar (folded : Bool) (margin : Nat) (gs : List Glyph) :
    Option (String × List Glyph) := do
  let (header, gs) ← blockHeader? gs
  match header.indent with
  | some n =>
    let (b, gs) ← blockLines folded (margin - 1 + n) {} false gs
    return (b.finish header.chomp, gs)
  | none =>
    let ((widest, breaks), gs) ← leadingLines 0 "" gs
    let (b, gs) ← blockLines folded (max widest (max margin 1)) { further := breaks } false gs
    return (b.finish header.chomp, gs)

end Bazaar.Yaml
