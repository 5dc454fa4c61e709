/-!
# White space around numbers and keys

A size, a digit run and a setting's name may be surrounded by white space. The
class is the Unicode property `White_Space`, which is larger than the class of
`Char.isWhitespace`.
-/

namespace CacheDepot.Text

/-- The twenty-five code points of the property `White_Space`. -/
def isBlank (c : Char) : Bool :=
  let code := c.toNat
  (9 ≤ code && code ≤ 13) || code == 0x20 || code == 0x85 || code == 0xA0 || code == 0x1680 ||
    (0x2000 ≤ code && code ≤ 0x200A) || code == 0x2028 || code == 0x2029 || code == 0x202F ||
    code == 0x205F || code == 0x3000

def trimStart (text : List Char) : List Char :=
  text.dropWhile isBlank

def trimEnd (text : List Char) : List Char :=
  (text.reverse.dropWhile isBlank).reverse

/-- The text without its leading and trailing white space. -/
def trim (text : List Char) : List Char :=
  trimEnd (trimStart text)

end CacheDepot.Text
