import DigitPalindrome.Digits

/-!
# Whole-sequence palindromes

A sequence is a palindrome when every digit in its first half equals its mirror
image `n - 1 - i`; the middle digit of an odd length has no partner to check.
-/

namespace DigitPalindrome

namespace DigitSeq

/-- Whether the sequence reads the same backwards: compare each index below
`n / 2` with its mirror `n - 1 - i`. -/
def isPalindrome (s : DigitSeq) : Bool :=
  let ds := s.digits.toArray
  (List.range (ds.size / 2)).all fun i => ds[i]? == ds[ds.size - 1 - i]?

end DigitSeq

end DigitPalindrome
