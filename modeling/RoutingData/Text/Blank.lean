/-!
# Blanks

The characters that separate words, the 25 of the property `White_Space`, and the two operations on
them: trimming both ends and splitting into words.
-/

namespace RoutingData.Text

/-- Whether a character is white space. -/
def isBlank (c : Char) : Bool :=
  let n := c.toNat
  (0x9 ≤ n && n ≤ 0xD) || n == 0x20 || n == 0x85 || n == 0xA0 || n == 0x1680 ||
    (0x2000 ≤ n && n ≤ 0x200A) || n == 0x2028 || n == 0x2029 || n == 0x202F || n == 0x205F ||
    n == 0x3000

/-- The text without the blanks at its two ends. -/
def trimChars (cs : List Char) : List Char :=
  ((cs.dropWhile isBlank).reverse.dropWhile isBlank).reverse

/-- The text without the blanks at its two ends. -/
def trim (s : String) : String := .ofList (trimChars s.toList)

/-- Whether a text consists of blanks alone. -/
def isBlankText (s : String) : Bool := s.toList.all isBlank

end RoutingData.Text
