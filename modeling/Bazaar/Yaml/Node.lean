import Bazaar.Source
import Bazaar.Word

/-! # Nodes

A document is a tree of scalars, sequences and mappings. Plain scalars are words, whose meaning
depends on what is expected of them; other scalars are texts. Structures are read from mappings
alone, and a plain scalar without characters stands for any collection without entries.
-/

namespace Bazaar.Yaml

/-- A node of a document. Collections know how many collections they are nested in, themselves
included. -/
inductive Node
  | scalar (isPlain : Bool) (text : String)
  | sequence (level : Nat) (items : List Node)
  | mapping (level : Nat) (entries : List (Node × Node))

namespace Node

def missing : Node := .scalar true ""

def word? : Node → Option String
  | .scalar true s => some s
  | _ => none

def text? : Node → Option String
  | .scalar _ s => some s
  | _ => none

def entries? : Node → Option (List (String × Node))
  | .scalar true "" => some []
  | .mapping _ entries => entries.mapM fun e => e.1.text?.map (·, e.2)
  | _ => none

/-- Nodes are kept only up to this level. -/
def deepest : Nat := 128

mutual

def buffer? : Node → Option Buffered
  | .scalar true s => Word.resolve? s
  | .scalar false s => some (.text s)
  | .sequence level items =>
    if deepest < level then none else (bufferItems? items).map .list
  | .mapping level entries =>
    if deepest < level then none else (bufferEntries? entries).map .record

def bufferItems? : List Node → Option (List Buffered)
  | [] => some []
  | n :: r => do
    let b ← buffer? n
    let bs ← bufferItems? r
    return b :: bs

def bufferEntries? : List (Node × Node) → Option (List (Buffered × Buffered))
  | [] => some []
  | (k, n) :: r => do
    let key ← buffer? k
    let b ← buffer? n
    let bs ← bufferEntries? r
    return (key, b) :: bs

end

instance : Source Node where
  isNull n := n.word?.any Word.isNull
  isUnit n := n.word?.any Word.isNull
  nat? n := n.word?.bind Word.nat?
  int? n := n.word?.bind Word.int?
  bool? n := n.word?.bind Word.bool?
  text? := text?
  items?
    | .scalar true "" => some []
    | .sequence _ items => some items
    | _ => none
  entries? := entries?
  fields? _ n := n.entries?.map ({ entries := ·, positional := false })
  choice? _ n := n.text?.map (·, none)
  buffer? := buffer?

end Node

end Bazaar.Yaml
