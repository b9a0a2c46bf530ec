/-!
# Unicode white space

Literals are trimmed of the characters with the Unicode `White_Space` property at
both ends. The property is a fixed list of 25 code points.
-/

namespace DigitPalindrome

/-- Whether a character has the Unicode `White_Space` property: the ASCII tab,
line feed, vertical tab, form feed, carriage return and space, next line, no-break
space, ogham space mark, the spaces U+2000 to U+200A, line and paragraph
separators, narrow no-break space, medium mathematical space and ideographic
space. -/
def isWhiteSpace (c : Char) : Bool :=
  let n := c.toNat
  (9 ≤ n && n ≤ 13) || n == 32 || n == 0x85 || n == 0xA0 || n == 0x1680 ||
    (0x2000 ≤ n && n ≤ 0x200A) || n == 0x2028 || n == 0x2029 || n == 0x202F ||
    n == 0x205F || n == 0x3000

/-- A character list without the white space at both of its ends. -/
def trimWhiteSpace (cs : List Char) : List Char :=
  ((cs.dropWhile isWhiteSpace).reverse.dropWhile isWhiteSpace).reverse

end DigitPalindrome
