/-!
# Machine words

Indices, lengths and the checked reading of a digit range are unsigned 64-bit
words. Arithmetic that leaves that range is a failure (a checked overflow), not a
larger number, so the places that can leave it test their result against
`wordLimit`.
-/

namespace DigitPalindrome

/-- The number of values of an unsigned 64-bit word: a word is a natural number
below this bound. -/
def wordLimit : Nat := Nat.pow 2 64

/-- Whether `n` is representable as an unsigned 64-bit word. -/
def fitsWord (n : Nat) : Bool := decide (n < wordLimit)

end DigitPalindrome
