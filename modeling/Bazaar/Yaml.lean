import Bazaar.Yaml.Document

/-! # YAML text

One document of block and bracketed collections, with comments and with plain, quoted and block
scalars. In a text without any node the root is a plain scalar without characters.
-/

namespace Bazaar.Yaml

/-- The root of the document that a text holds. -/
def parse? (s : String) : Option Node := do
  let gs ← glyphs? s
  let ts ← tokens? gs
  root? ts

end Bazaar.Yaml
