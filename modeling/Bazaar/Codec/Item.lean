import Bazaar.Codec
import Bazaar.Recipe.Matching

/-! # Items and recipes as data -/

namespace Bazaar

namespace Generation

def name : Generation → String
  | original => "Original"
  | copyOfOriginal => "CopyOfOriginal"
  | copyOfCopy => "CopyOfCopy"
  | tattered => "Tattered"

def all : List Generation := [original, copyOfOriginal, copyOfCopy, tattered]

instance : Codec Generation where
  encode g := .text g.name
  decode? := readName name all

end Generation

instance : Codec Book where
  encode b := .record [("title", encode b.title), ("author", encode b.author),
    ("generation", encode b.generation)]
  decode? := readRecord ["title", "author", "generation"] fun fs => do
    let title ← fs.optional "title"
    let author ← fs.optional "author"
    let generation ← fs.withDefault "generation" .original
    return { title, author, generation }

instance : Codec Metadata where
  encode m := .record [("display_name", encode m.displayName), ("lore", encode m.lore),
    ("enchantments", encode m.enchantments), ("book", encode m.book), ("custom", encode m.custom)]
  decode? := readRecord ["display_name", "lore", "enchantments", "book", "custom"] fun fs => do
    let displayName ← fs.optional "display_name"
    let lore ← fs.withDefault "lore" []
    let enchantments ← fs.withDefault "enchantments" ∅
    let book ← fs.optional "book"
    let custom ← fs.withDefault "custom" ∅
    return { displayName, lore, enchantments, book, custom }

instance : Codec Stack where
  encode s := .record [("item_type", encode s.kind.item), ("meta", encode s.kind.data),
    ("amount", encode s.amount), ("max_stack_size", encode s.maxSize)]
  decode? := readRecord ["item_type", "meta", "amount", "max_stack_size"] fun fs => do
    let item ← fs.required "item_type"
    let data ← fs.withDefault "meta" {}
    let amount ← fs.required "amount"
    let maxSize ← fs.withDefault "max_stack_size" 64
    return { kind := { item, data }, amount, maxSize }

namespace Comparison

def name : Comparison → String
  | strict => "Strict"
  | lenient => "Lenient"

instance : Codec Comparison where
  encode c := .text c.name
  decode? := readName name [strict, lenient]

end Comparison

instance : Codec Recipe where
  encode r := .record [("item1", encode r.first), ("item2", encode r.second),
    ("result", encode r.result), ("out_of_stock", encode r.outOfStock)]
  decode? := readRecord ["item1", "item2", "result", "out_of_stock"] fun fs => do
    let first ← fs.required "item1"
    let second ← fs.optional "item2"
    let result ← fs.required "result"
    let outOfStock ← fs.withDefault "out_of_stock" false
    return { first, second, result, outOfStock }

namespace Order

def name : Order → String
  | asIs => "AsIs"
  | swapped => "Swapped"

instance : Codec Order where
  encode o := .text o.name
  decode? := readName name [asIs, swapped]

end Order

/-- The offered slots are written as a pair. -/
instance : Encode Offered where
  encode o := .list [encode o.slot1, encode o.slot2]

end Bazaar
