import DigitPalindrome.Center
import DigitPalindrome.Range

/-!
# Palindromes by center expansion

`expand` grows the run around one center while the digits just outside it agree.
The scan tries, for every index `i` in increasing order, the digit center `i` and
then the gap center `i|i+1`, and keeps a run only when it is strictly longer than
the best so far, so the earliest of the longest runs wins.
-/

namespace DigitPalindrome

/-- Widen the window `[left, right]` one digit on each side while the digits just
outside it exist and agree. -/
def widen (ds : Array Digit) : Nat → Nat → Nat × Nat
  | 0, right => (0, right)
  | left + 1, right =>
    if right + 1 < ds.size ∧ ds[left]? = ds[right + 1]? then widen ds left (right + 1)
    else (left + 1, right)

/-- The longest palindromic run around `center`, or nothing when the center's right
bound is past the end or its two bounds hold different digits. -/
def expandIn (ds : Array Digit) (center : Center) : Option Span :=
  let (left, right) := center.bounds
  if right < ds.size ∧ ds[left]? = ds[right]? then
    let (start, last) := widen ds left right
    Span.make? start last center
  else none

/-- Every center of a sequence of `n` digits in scan order: digit `i`, then gap
`i`, for `i = 0, …, n - 1`. -/
def centersUpTo (n : Nat) : List Center :=
  (List.range n).flatMap fun i => [.digit i, .gap i]

/-- The length of the best span so far; zero when there is none. -/
def bestLengthOf : Option Span → Nat
  | none => 0
  | some s => s.length

/-- One step of the scan: the run around `center` replaces `best` only when it is
strictly longer. -/
def keepLonger (ds : Array Digit) (best : Option Span) (center : Center) : Option Span :=
  match expandIn ds center with
  | none => best
  | some s => if bestLengthOf best < s.length then some s else best

/-- The earliest longest palindromic run of a digit array. -/
def longestSpanIn (ds : Array Digit) : Option Span :=
  (centersUpTo ds.size).foldl (keepLonger ds) none

/-- The outcome of a scan: the best span and the integer its digits write. -/
structure ScanResult where
  /-- The earliest longest palindromic run, if the sequence is not empty. -/
  best : Option Span
  /-- The integer the best run's digits write. -/
  bestValue : Option Nat
  deriving DecidableEq, Repr

namespace DigitSeq

/-- The longest palindromic run around `center`. -/
def expand (s : DigitSeq) (center : Center) : Option Span :=
  expandIn s.digits.toArray center

/-- The earliest longest palindromic run and its value. -/
def scan (s : DigitSeq) : ScanResult :=
  let best := longestSpanIn s.digits.toArray
  { best, bestValue := best.map fun sp => digitsValue (s.window sp.start sp.last) }

end DigitSeq

namespace ScanResult

/-- The length of the best run; zero when there is none. -/
def bestLength (r : ScanResult) : Nat := bestLengthOf r.best

/-- Whether no run was found (only for the empty sequence). -/
def isNone (r : ScanResult) : Bool := r.best.isNone

/-- The best run's value as a 64-bit word, read again from the sequence the scan
ran on. -/
def wordValue (r : ScanResult) (s : DigitSeq) : Except AnalysisError (Option Nat) :=
  match r.best with
  | none => .ok none
  | some sp =>
    match s.reconstructWord sp.start sp.last with
    | .error e => .error e
    | .ok v => .ok (some v)

end ScanResult

end DigitPalindrome
