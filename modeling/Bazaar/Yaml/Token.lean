import Bazaar.Yaml.Scalar

/-! # Tokens

Outside brackets, nesting is told by indentation: a token that starts further to the right opens
a block, and one that starts further to the left closes the blocks between. A key is known as one
only at the colon behind it. So the place of each token that may turn out to be a key is kept, and
the tokens that announce the key are put in front of it later.
-/

namespace Bazaar.Yaml

/-- The parts that markup is made of. -/
inductive Token
  | documentStart | documentEnd
  | blockSequence | blockMapping | blockEnd
  | flowSequence | flowSequenceEnd | flowMapping | flowMappingEnd
  | entry | comma | key | value
  | scalar (isPlain : Bool) (text : String)
  deriving DecidableEq

/-- A token that becomes a key if a colon follows on the same line. -/
structure SimpleKey where
  /-- The number of tokens before it. -/
  place : Nat
  line : Nat
  column : Nat
  /-- Nothing but a key can stand here. -/
  required : Bool

/-- What has been read so far. -/
structure Scan where
  /-- The tokens, last one first. -/
  recent : List Token := []
  /-- The number of tokens. -/
  count : Nat := 0
  /-- One more than the column of the innermost block; zero outside of all blocks. -/
  margin : Nat := 0
  /-- The margins of the surrounding blocks. -/
  outer : List Nat := []
  /-- A key may start here. -/
  keyAllowed : Bool := true
  /-- The possible key at each level of brackets, innermost first. -/
  keys : List (Option SimpleKey) := [none]

namespace Scan

def inFlow (s : Scan) : Bool := 1 < s.keys.length

def push (s : Scan) (t : Token) : Scan :=
  { s with recent := t :: s.recent, count := s.count + 1 }

def insertAt (s : Scan) (place : Nat) (t : Token) : Scan :=
  let behind := s.count - place
  { s with recent := s.recent.take behind ++ t :: s.recent.drop behind, count := s.count + 1 }

def allowKey (s : Scan) (b : Bool) : Scan := { s with keyAllowed := b }

/-- A key more than this many columns before its colon is none. -/
def keyLimit : Nat := 1024

/-- Forget the keys that a colon in a given place cannot belong to. Refuses to forget a required
one. -/
def expireKeys (s : Scan) (line column : Nat) : Option Scan := do
  let keys ← s.keys.mapM fun
    | none => some none
    | some k =>
      if k.line < line || k.column + keyLimit < column then
        if k.required then none else some none
      else some (some k)
  return { s with keys }

/-- Give up the possible key at this level of brackets. Refuses to give up a required one. -/
def dropKey (s : Scan) : Option Scan :=
  match s.keys with
  | some k :: r => if k.required then none else some { s with keys := none :: r }
  | _ => some s

/-- Note that the token about to start may be a key. -/
def noteKey (s : Scan) (g : Glyph) : Option Scan :=
  if s.keyAllowed then do
    let s ← s.dropKey
    let required := !s.inFlow && s.margin = g.column + 1
    let k : SimpleKey := { place := s.count, line := g.line, column := g.column, required }
    return { s with keys := some k :: s.keys.drop 1 }
  else some s

/-- Open a block at a column, if it is not open yet. Its token goes to a given place. -/
def openBlock (s : Scan) (column place : Nat) (t : Token) : Scan :=
  if s.inFlow || column < s.margin then s
  else { s.insertAt place t with margin := column + 1, outer := s.margin :: s.outer }

/-- Close surrounding blocks of given margins, as long as the innermost one is beyond a limit. -/
def closeInto (limit : Nat) : List Nat → Scan → Scan
  | [], s => s
  | m :: r, s =>
    if limit < s.margin then closeInto limit r { s.push .blockEnd with margin := m, outer := r }
    else s

/-- Close the blocks whose margin is beyond a limit. -/
def closeBlocks (s : Scan) (limit : Nat) : Scan :=
  if s.inFlow then s else closeInto limit s.outer s

/-- Go on to the next token, over blanks, comments and line breaks. Outside brackets, a key may
start on a new line. A tab is no indentation. -/
def skip (keyAllowed inFlow inComment : Bool) : List Glyph → Bool × List Glyph
  | [] => (keyAllowed, [])
  | g :: r =>
    if isBreak g.char then skip (keyAllowed || !inFlow) inFlow false r
    else if inComment || g.char = ' ' || (g.char = '\t' && (inFlow || !keyAllowed)) then
      skip keyAllowed inFlow inComment r
    else if g.char = '#' then skip keyAllowed inFlow true r
    else (keyAllowed, g :: r)

def document (s : Scan) (t : Token) : Option Scan := do
  let s ← (s.closeBlocks 0).dropKey
  return (s.allowKey false).push t

def openFlow (s : Scan) (g : Glyph) (t : Token) : Option Scan := do
  let s ← s.noteKey g
  return { s.push t with keys := none :: s.keys, keyAllowed := true }

def closeFlow (s : Scan) (t : Token) : Option Scan := do
  let s ← s.dropKey
  let keys := if s.inFlow then s.keys.drop 1 else s.keys
  return { s.push t with keys, keyAllowed := false }

def comma (s : Scan) : Option Scan := do
  let s ← s.dropKey
  return (s.allowKey true).push .comma

def entry (s : Scan) (g : Glyph) : Option Scan :=
  if !s.inFlow && !s.keyAllowed then none
  else do
    let s ← (s.openBlock g.column s.count .blockSequence).dropKey
    return (s.allowKey true).push .entry

def explicitKey (s : Scan) (g : Glyph) : Option Scan :=
  if !s.inFlow && !s.keyAllowed then none
  else do
    let s ← (s.openBlock g.column s.count .blockMapping).dropKey
    return (s.allowKey !s.inFlow).push .key

def value (s : Scan) (g : Glyph) : Option Scan :=
  match s.keys with
  | some k :: r =>
    let s := ({ s with keys := none :: r }.insertAt k.place .key).openBlock k.column k.place
      .blockMapping
    some ((s.allowKey false).push .value)
  | _ =>
    if !s.inFlow && !s.keyAllowed then none
    else
      let s := s.openBlock g.column s.count .blockMapping
      some ((s.allowKey !s.inFlow).push .value)

/-- A scalar that may be a key, read by a given function. -/
def quoted (s : Scan) (g : Glyph) (text : Option (String × List Glyph)) :
    Option (Scan × List Glyph) := do
  let s ← s.noteKey g
  let (text, gs) ← text
  return ((s.allowKey false).push (.scalar false text), gs)

def block (s : Scan) (folded : Bool) (gs : List Glyph) : Option (Scan × List Glyph) := do
  let s ← s.dropKey
  let (text, gs) ← blockScalar folded s.margin gs
  return ((s.allowKey true).push (.scalar false text), gs)

/-- A plain scalar. If it ends on a line of its own, a key may follow. -/
def word (s : Scan) (gs : List Glyph) : Option (Scan × List Glyph) :=
  match gs with
  | [] => none
  | g :: _ => do
    let s ← s.noteKey g
    let ((text, gap), gs) ← plain s.inFlow s.margin "" none gs
    return ((s.allowKey (gap.any (·.broken))).push (.scalar true text), gs)

/-- Marks that no plain scalar starts with. -/
def isMark (c : Char) : Bool :=
  c ∈ ['-', '?', ':', ',', '[', ']', '\x7b', '\x7d', '#', '&', '*', '!', '|', '>', '\x27', '\x22',
    '%', '@', '\x60']

/-- A plain scalar starts here. -/
def startsWord (s : Scan) (g : Glyph) (r : List Glyph) : Bool :=
  (!isMark g.char && !isBlank g.char && !isBreak g.char) ||
    (g.char = '-' && !r.head?.any fun h => isBlank h.char) ||
    (!s.inFlow && (g.char = '?' || g.char = ':') && !endsWord r)

/-- Read one token from its first character on. -/
def token (s : Scan) (g : Glyph) (r : List Glyph) : Option (Scan × List Glyph) :=
  let c := g.char
  let on (s : Option Scan) := s.map fun s => (s, r)
  if isDocumentMark '-' (g :: r) then (s.document .documentStart).map fun s => (s, r.drop 2)
  else if isDocumentMark '.' (g :: r) then (s.document .documentEnd).map fun s => (s, r.drop 2)
  else if c = '[' then on (s.openFlow g .flowSequence)
  else if c = '\x7b' then on (s.openFlow g .flowMapping)
  else if c = ']' then on (s.closeFlow .flowSequenceEnd)
  else if c = '\x7d' then on (s.closeFlow .flowMappingEnd)
  else if c = ',' then on s.comma
  else if c = '-' && endsWord r then on (s.entry g)
  else if c = '?' && (s.inFlow || endsWord r) then on (s.explicitKey g)
  else if c = ':' && (s.inFlow || endsWord r) then on (s.value g)
  else if c = '|' && !s.inFlow then s.block false r
  else if c = '>' && !s.inFlow then s.block true r
  else if c = '\x27' then s.quoted g (singleQuoted "" {} r)
  else if c = '\x22' then s.quoted g (doubleQuoted "" {} .ordinary r)
  else if s.startsWord g r then s.word (g :: r)
  else none

/-- Read all tokens. Each step takes at least one character, so a step for each character and one
for the end are enough. -/
def run : Nat → Scan → List Glyph → Option (List Token)
  | 0, _, _ => none
  | steps + 1, s, gs =>
    match skip s.keyAllowed s.inFlow false gs with
    | (_, []) => do
      let s ← (s.closeBlocks 0).dropKey
      return s.recent.reverse
    | (keyAllowed, g :: r) => do
      let s ← (s.allowKey keyAllowed).expireKeys g.line g.column
      let (s, gs) ← (s.closeBlocks (g.column + 1)).token g r
      run steps s gs

end Scan

def tokens? (gs : List Glyph) : Option (List Token) := Scan.run (gs.length + 1) {} gs

end Bazaar.Yaml
