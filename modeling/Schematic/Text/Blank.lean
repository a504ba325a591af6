/-!
Unicode white space and its removal at the ends of texts.  Trimming removes what has the
`White_Space` property; stripping also removes the separators U+001C to U+001F, as they end a
field or a record in older data formats.
-/

namespace Schematic
namespace Text

/-- The Unicode property of white space. -/
def isSpace (c : Char) : Bool :=
  let n := c.toNat
  (0x09 ≤ n && n ≤ 0x0D) || n == 0x20 || n == 0x85 || n == 0xA0 || n == 0x1680 ||
    (0x2000 ≤ n && n ≤ 0x200A) || n == 0x2028 || n == 0x2029 || n == 0x202F || n == 0x205F ||
    n == 0x3000

/-- White space: the Unicode property, and the four information separators. -/
def isBlank (c : Char) : Bool :=
  isSpace c || (0x1C ≤ c.toNat && c.toNat ≤ 0x1F)

/-- The text without the white space of Unicode at either end; the information separators stay. -/
def trim (s : List Char) : List Char :=
  ((s.dropWhile isSpace).reverse.dropWhile isSpace).reverse

def stripStart (s : List Char) : List Char :=
  s.dropWhile isBlank

def stripEnd (s : List Char) : List Char :=
  (s.reverse.dropWhile isBlank).reverse

def strip (s : List Char) : List Char :=
  stripEnd (stripStart s)

end Text
end Schematic
