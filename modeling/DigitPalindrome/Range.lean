import DigitPalindrome.Digits
import DigitPalindrome.Error
import DigitPalindrome.Word

/-!
# Reading a digit range

An inclusive range `start..=last` of a sequence reads as the integer its digits
write. The range is checked first; the exact reading is the Horner fold, and the
word reading fails as soon as the running value leaves the 64-bit range. Since
the running value never decreases, that happens exactly when the final value
does not fit.
-/

namespace DigitPalindrome

namespace DigitSeq

/-- The digits of the inclusive window `start..=last` (cut short at the end of the
sequence). -/
def window (s : DigitSeq) (start last : Nat) : List Digit :=
  (s.digits.drop start).take (last + 1 - start)

/-- The digits of `start..=last`, or the range error when `start > last` or the
range reaches past the end. -/
def checkedWindow (s : DigitSeq) (start last : Nat) : Except AnalysisError (List Digit) :=
  if last < start ∨ s.length ≤ last then .error (.invalidRange start last s.length)
  else .ok (s.window start last)

/-- The integer the digits of `start..=last` write. -/
def reconstruct (s : DigitSeq) (start last : Nat) : Except AnalysisError Nat :=
  match s.checkedWindow start last with
  | .error e => .error e
  | .ok ds => .ok (digitsValue ds)

end DigitSeq

/-- The Horner fold from `acc` that stops with nothing as soon as the running value
is not a 64-bit word. -/
def wordHorner : List Digit → Nat → Option Nat
  | [], acc => some acc
  | d :: rest, acc =>
    let next := 10 * acc + d.val
    if fitsWord next then wordHorner rest next else none

namespace DigitSeq

/-- The integer the digits of `start..=last` write, as a 64-bit word; a value
that does not fit reports the number of digits in the range. -/
def reconstructWord (s : DigitSeq) (start last : Nat) : Except AnalysisError Nat :=
  match s.checkedWindow start last with
  | .error e => .error e
  | .ok ds =>
    match wordHorner ds 0 with
    | some v => .ok v
    | none => .error (.overflow ds.length)

end DigitSeq

end DigitPalindrome
