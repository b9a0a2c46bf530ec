/-!
# Decimal digit sequences

A digit sequence is the most-significant-first list of decimal digits of a
non-negative integer. Sequences read from an integer have no leading zero unless
the integer is zero (then the sequence is exactly `[0]`); sequences built from raw
digit values may keep leading zeros, and the empty sequence exists.
-/

namespace DigitPalindrome

/-- A decimal digit. -/
abbrev Digit := Fin 10

/-- Ten is not zero, so digits have a zero and a reduction of any natural number. The
zero of `Nat` is named, so that the instance is the same whatever algebra is loaded. -/
instance digitBaseNeZero : @NeZero Nat Zero.ofOfNat0 10 := ⟨Nat.succ_ne_zero 9⟩

namespace Digit

/-- The character `'0'` to `'9'` that writes a digit. -/
def toChar (d : Digit) : Char := Char.ofNat (48 + d.val)

/-- The digit a character writes, when it is an ASCII digit. -/
def ofChar? (c : Char) : Option Digit :=
  if h : 48 ≤ c.toNat ∧ c.toNat < 58 then some ⟨c.toNat - 48, by omega⟩ else none

/-- The character that writes the digit `num` of base `radix` (a base from 2 to 36):
`0`-`9`, then `a`-`z`; nothing when `num` is not a digit of that base. -/
def radixChar? (radix num : Nat) : Option Char :=
  if num < radix then
    if num < 10 then some (Char.ofNat (48 + num)) else some (Char.ofNat (87 + num))
  else none

/-- The lowercase base-36 character of `value mod 36`, or `?` when there is none. -/
def base36Char (value : Nat) : Char := (radixChar? 36 (value % 36)).getD '?'

end Digit

/-- The value of a digit list read most significant first: the Horner fold
`acc ↦ 10 * acc + d`. -/
def digitsValue (ds : List Digit) : Nat :=
  ds.foldl (fun acc d => 10 * acc + d.val) 0

/-- The decimal expansion of `n`, most significant digit first; `[0]` for zero. -/
def decimalDigits (n : Nat) : List Digit :=
  if n < 10 then [⟨n % 10, Nat.mod_lt _ (by decide)⟩]
  else decimalDigits (n / 10) ++ [⟨n % 10, Nat.mod_lt _ (by decide)⟩]
termination_by n
decreasing_by omega

/-- The division loop of the decimal expansion: while `rest` is positive, push its last
digit after the digits `found` so far and divide it by ten. The digits come out least
significant first. -/
def pushDigits (found : List Digit) (rest : Nat) : List Digit :=
  if 0 < rest then pushDigits (found ++ [⟨rest % 10, Nat.mod_lt _ (by decide)⟩]) (rest / 10)
  else found
termination_by rest
decreasing_by omega

/-- A digit list without its leading zeros, or `[0]` when every digit is zero
(the empty list included). -/
def withoutLeadingZeros (ds : List Digit) : List Digit :=
  match ds.dropWhile (fun d => d.val == 0) with
  | [] => [0]
  | rest => rest

/-- A finite sequence of decimal digits, most significant first. -/
structure DigitSeq where
  /-- The digits, most significant first. -/
  digits : List Digit
  deriving DecidableEq, Repr

namespace DigitSeq

/-- The sequence with no digits. -/
def empty : DigitSeq := ⟨[]⟩

/-- The number of digits. -/
def length (s : DigitSeq) : Nat := s.digits.length

/-- Whether the sequence has no digits. -/
def isEmpty (s : DigitSeq) : Bool := s.digits.isEmpty

/-- The digit at `index`, when the index is in range. -/
def get? (s : DigitSeq) (index : Nat) : Option Digit := s.digits[index]?

/-- The digits read last to first. -/
def reversed (s : DigitSeq) : List Digit := s.digits.reverse

/-- The integer the sequence writes; zero for the empty sequence. -/
def value (s : DigitSeq) : Nat := digitsValue s.digits

/-- The digits written one after another, leading zeros kept. -/
def render (s : DigitSeq) : String := String.ofList (s.digits.map Digit.toChar)

/-- The digits as a bracketed list such as `[1, 0, 1]`, or `[]`. -/
def listText (s : DigitSeq) : String :=
  "[" ++ ", ".intercalate (s.digits.map fun d => (Digit.toChar d).toString) ++ "]"

/-- The decimal expansion of a natural number: `[0]` for zero; otherwise the digits
`pushDigits` finds, least significant first, reversed. -/
def ofNat (n : Nat) : DigitSeq :=
  if n = 0 then ⟨[0]⟩ else ⟨(pushDigits [] n).reverse⟩

end DigitSeq

end DigitPalindrome
