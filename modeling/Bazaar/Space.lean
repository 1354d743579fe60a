/-! # White space -/

namespace Bazaar

/-- A character without ink: the separators and the control characters among them. -/
def isSpace (c : Char) : Bool :=
  let n := c.toNat
  (9 ≤ n && n ≤ 13) || n = 0x20 || n = 0x85 || n = 0xA0 || n = 0x1680 ||
    (0x2000 ≤ n && n ≤ 0x200A) || n = 0x2028 || n = 0x2029 || n = 0x202F || n = 0x205F ||
    n = 0x3000

def skipSpace (cs : List Char) : List Char := cs.dropWhile isSpace

end Bazaar
