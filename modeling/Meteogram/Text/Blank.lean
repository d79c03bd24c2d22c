/-!
# White space

The characters with the property White_Space, trimming, and the lower case of ASCII letters.
-/

namespace Meteogram.Text

/-- The characters with the Unicode property White_Space. -/
def isBlank (c : Char) : Bool :=
  let n := c.toNat
  (9 ≤ n && n ≤ 13) || n == 0x20 || n == 0x85 || n == 0xA0 || n == 0x1680 ||
    (0x2000 ≤ n && n ≤ 0x200A) || n == 0x2028 || n == 0x2029 || n == 0x202F || n == 0x205F ||
    n == 0x3000

/-- Drops the white space before a text. -/
def trimStart (cs : List Char) : List Char := cs.dropWhile isBlank

/-- Drops the white space around a text. -/
def trim (cs : List Char) : List Char := (trimStart (trimStart cs).reverse).reverse

/-- A text without the white space around it and with ASCII capitals made small. -/
def folded (s : String) : String :=
  String.ofList ((trim s.toList).map Char.toLower)

end Meteogram.Text
