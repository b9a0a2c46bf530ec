import DigitPalindrome.Word

/-!
# Centers and spans

A palindromic run grows around a center: a single digit, or the gap between two
neighbouring digits. A span is the inclusive window `start..=last` a run covers,
together with the center it grew from.
-/

namespace DigitPalindrome

/-- The middle of a palindromic run: the digit at `index`, or the gap between the
digits at `index` and `index + 1`. -/
inductive Center where
  | digit (index : Nat)
  | gap (index : Nat)
  deriving DecidableEq, Repr

namespace Center

/-- The index the center is named by. -/
def index : Center → Nat
  | digit i => i
  | gap i => i

/-- The innermost window of the center: `(i, i)` for a digit, `(i, i + 1)` for a
gap. -/
def bounds : Center → Nat × Nat
  | digit i => (i, i)
  | gap i => (i, i + 1)

/-- Whether the right bound is a machine word; a gap at the last word has none. -/
def boundsFit (c : Center) : Bool := fitsWord c.bounds.2

/-- The name of the center's kind: `digit` or `gap`. -/
def kindName : Center → String
  | digit _ => "digit"
  | gap _ => "gap"

/-- The text `digit i` or `gap i|i+1`. -/
def describe : Center → String
  | digit i => "digit " ++ toString i
  | gap i => "gap " ++ toString i ++ "|" ++ toString (i + 1)

end Center

/-- An inclusive window `start..=last` of a digit sequence and the center it grew
from. -/
structure Span where
  /-- The first index of the window. -/
  start : Nat
  /-- The last index of the window (inclusive). -/
  last : Nat
  /-- The center the window grew from. -/
  center : Center
  deriving DecidableEq, Repr

namespace Span

/-- The span `start..=last` around `center`, when `start ≤ last`. -/
def make? (start last : Nat) (center : Center) : Option Span :=
  if last < start then none else some { start, last, center }

/-- The number of digits the span covers. -/
def length (s : Span) : Nat := s.last - s.start + 1

/-- Whether the length is a machine word; `0..=2^64-1` has a length that is not. -/
def lengthFits (s : Span) : Bool := fitsWord s.length

/-- The text `start..=last`. -/
def describe (s : Span) : String := toString s.start ++ "..=" ++ toString s.last

end Span

end DigitPalindrome
