import KotlinMocks.Text.Case

/-!
# White space

The characters with the Unicode property White_Space, and trimming them from both ends of a
text.
-/

namespace KotlinMocks.Text

/-- Whether a character has the Unicode property White_Space. -/
def isWhiteSpace (c : Char) : Bool :=
  let n := c.toNat
  (0x09 ≤ n && n ≤ 0x0D) || n == 0x20 || n == 0x85 || n == 0xA0 || n == 0x1680 ||
    (0x2000 ≤ n && n ≤ 0x200A) || n == 0x2028 || n == 0x2029 || n == 0x202F || n == 0x205F ||
    n == 0x3000

/-- The text without the white space at either end. -/
def trimWhiteSpace (s : String) : String :=
  String.ofList ((s.toList.dropWhile isWhiteSpace).reverse.dropWhile isWhiteSpace).reverse

/-- The text with every character replaced by its full lowercase mapping. -/
def lowercase (s : String) : String := String.ofList (s.toList.flatMap lowerFull)

end KotlinMocks.Text
