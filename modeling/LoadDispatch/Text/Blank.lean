/-!
Blank characters: the Unicode `White_Space` property, beyond ASCII. The no-break space U+00A0 and
the ideographic space U+3000 are blank; the zero-width space U+200B and the byte-order mark U+FEFF
are not.
-/

namespace LoadDispatch

namespace Text

/-- The Unicode `White_Space` property. -/
def isBlank (c : Char) : Bool :=
  let n := c.toNat
  (0x09 ≤ n && n ≤ 0x0D) || n == 0x20 || n == 0x85 || n == 0xA0 || n == 0x1680 ||
    (0x2000 ≤ n && n ≤ 0x200A) || n == 0x2028 || n == 0x2029 || n == 0x202F ||
    n == 0x205F || n == 0x3000

/-- The characters left after dropping blanks at both ends. -/
def trimBlankList (cs : List Char) : List Char :=
  ((cs.dropWhile isBlank).reverse.dropWhile isBlank).reverse

def trimBlank (s : String) : String := String.ofList (trimBlankList s.toList)

def isAsciiBlank (c : Char) : Bool :=
  c == ' ' || c == '\t' || c == '\n' || c == '\r' || c.toNat == 0x0C || c.toNat == 0x0B

end Text

end LoadDispatch
