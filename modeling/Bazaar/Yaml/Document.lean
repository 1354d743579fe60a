import Bazaar.Yaml.Node
import Bazaar.Yaml.Token

/-! # Documents

The root node of a document, made of its tokens. Every function reads from the front of a list of
tokens and returns the tokens behind what it has read. Its first argument bounds the depth of
recursion, and its second one is the level of the collections that it reads.
-/

namespace Bazaar.Yaml

/-- A node that may be left out before certain tokens. -/
def orMissing (ends : List Token) (read : List Token → Option (Node × List Token))
    (ts : List Token) : Option (Node × List Token) :=
  match ts with
  | [] => some (.missing, [])
  | t :: _ => if t ∈ ends then some (.missing, ts) else read ts

def valueOf (ends : List Token) (read : List Token → Option (Node × List Token)) :
    List Token → Option (Node × List Token)
  | .value :: ts => orMissing ends read ts
  | ts => some (.missing, ts)

mutual

/-- Read a node. Block collections are read only where they may stand; a block mapping may hold
a sequence that is not indented further than its key. -/
def node (depth level : Nat) (inBlock inMapping : Bool) (ts : List Token) :
    Option (Node × List Token) :=
  match depth with
  | 0 => none
  | depth + 1 =>
    match ts with
    | .scalar isPlain text :: ts => some (.scalar isPlain text, ts)
    | .flowSequence :: ts => do
      let (items, ts) ← flowItems depth (level + 1) true ts
      return (.sequence level items, ts)
    | .flowMapping :: ts => do
      let (entries, ts) ← flowEntries depth (level + 1) true ts
      return (.mapping level entries, ts)
    | .blockSequence :: ts =>
      if inBlock then do
        let (items, ts) ← blockItems depth (level + 1) ts
        return (.sequence level items, ts)
      else none
    | .blockMapping :: ts =>
      if inBlock then do
        let (entries, ts) ← blockEntries depth (level + 1) ts
        return (.mapping level entries, ts)
      else none
    | .entry :: _ =>
      if inMapping then do
        let (items, ts) ← flushItems depth (level + 1) ts
        return (.sequence level items, ts)
      else none
    | _ => none

/-- Read the entries of an indented sequence, with its end. -/
def blockItems (depth level : Nat) (ts : List Token) : Option (List Node × List Token) :=
  match depth with
  | 0 => none
  | depth + 1 =>
    match ts with
    | .entry :: ts => do
      let (item, ts) ← orMissing [.entry, .blockEnd] (node depth level true false) ts
      let (items, ts) ← blockItems depth level ts
      return (item :: items, ts)
    | .blockEnd :: ts => some ([], ts)
    | _ => none

/-- Read the entries of a sequence that is not indented. -/
def flushItems (depth level : Nat) (ts : List Token) : Option (List Node × List Token) :=
  match depth with
  | 0 => none
  | depth + 1 =>
    match ts with
    | .entry :: ts => do
      let ends := [Token.entry, .key, .value, .blockEnd]
      let (item, ts) ← orMissing ends (node depth level true false) ts
      let (items, ts) ← flushItems depth level ts
      return (item :: items, ts)
    | ts => some ([], ts)

/-- Read the entries of an indented mapping, with its end. -/
def blockEntries (depth level : Nat) (ts : List Token) :
    Option (List (Node × Node) × List Token) :=
  match depth with
  | 0 => none
  | depth + 1 =>
    let read := node depth level true true
    let ends := [Token.key, .value, .blockEnd]
    match ts with
    | .blockEnd :: ts => some ([], ts)
    | .key :: ts => do
      let (key, ts) ← orMissing ends read ts
      let (value, ts) ← valueOf ends read ts
      let (entries, ts) ← blockEntries depth level ts
      return ((key, value) :: entries, ts)
    | _ => none

/-- Read the items of a bracketed sequence, with its end. An item may be a mapping of one key. If
that key is left out, the mark behind it is skipped as well. -/
def flowItems (depth level : Nat) (isFirst : Bool) (ts : List Token) :
    Option (List Node × List Token) :=
  match depth with
  | 0 => none
  | depth + 1 =>
    match ts with
    | .flowSequenceEnd :: ts => some ([], ts)
    | ts => do
      let ts ← if isFirst then some ts
        else match ts with
        | .comma :: ts => some ts
        | _ => none
      match ts with
      | .flowSequenceEnd :: ts => return ([], ts)
      | .key :: ts =>
        let read := node depth (level + 1) false false
        let (key, ts) ← match ts with
          | .value :: ts | .comma :: ts | .flowSequenceEnd :: ts => some (.missing, ts)
          | ts => read ts
        let (value, ts) ← valueOf [.comma, .flowSequenceEnd] read ts
        let (items, ts) ← flowItems depth level false ts
        return (.mapping level [(key, value)] :: items, ts)
      | ts =>
        let (item, ts) ← node depth level false false ts
        let (items, ts) ← flowItems depth level false ts
        return (item :: items, ts)

/-- Read the entries of a bracketed mapping, with its end. -/
def flowEntries (depth level : Nat) (isFirst : Bool) (ts : List Token) :
    Option (List (Node × Node) × List Token) :=
  match depth with
  | 0 => none
  | depth + 1 =>
    match ts with
    | .flowMappingEnd :: ts => some ([], ts)
    | ts => do
      let ts ← if isFirst then some ts
        else match ts with
        | .comma :: ts => some ts
        | _ => none
      let read := node depth level false false
      match ts with
      | .flowMappingEnd :: ts => return ([], ts)
      | .key :: ts =>
        let (key, ts) ← orMissing [.value, .comma, .flowMappingEnd] read ts
        let (value, ts) ← valueOf [.comma, .flowMappingEnd] read ts
        let (entries, ts) ← flowEntries depth level false ts
        return ((key, value) :: entries, ts)
      | ts =>
        let (key, ts) ← read ts
        let (entries, ts) ← flowEntries depth level false ts
        return ((key, .missing) :: entries, ts)

end

/-- The root node of a single document. It may be left out in a text without any token, and behind
the line that starts a document. -/
def root? (ts : List Token) : Option Node := do
  let read := node (2 * ts.length + 2) 1 true false
  let (root, ts) ← match ts with
    | [] => some (.missing, [])
    | .documentStart :: ts => orMissing [.documentStart, .documentEnd] read ts
    | ts => read ts
  if (ts.dropWhile (· = .documentEnd)).isEmpty then some root else none

end Bazaar.Yaml
