import DigitPalindrome.Scan
import DigitPalindrome.Mirror

/-!
# The engine on a machine

The engine's functions as a machine runs them. A read past the end of the digits, a
slice that does not fit, and word arithmetic that leaves the 64-bit range stop the run
with a trap instead of giving a value. Each function takes the engine's steps in the
engine's order, every guard before the access it protects, so a run that ends without a
trap is one in which every read was in range and every index computed was a word.
-/

namespace DigitPalindrome

/-- Why a run stops before it gives a value. -/
inductive Trap where
  /-- A read, or the end of a slice, past the end of the digits. -/
  | outOfBounds (index length : Nat)
  /-- A slice that starts after it ends. -/
  | reversedSlice (start stop : Nat)
  /-- Word arithmetic above the largest word. -/
  | overflow
  /-- Word arithmetic below zero. -/
  | underflow
  deriving DecidableEq, Repr

namespace Machine

/-- The digit at `index`. -/
def read (ds : Array Digit) (index : Nat) : Except Trap Digit :=
  if h : index < ds.size then .ok ds[index] else .error (.outOfBounds index ds.size)

/-- The sum of two words. -/
def add (a b : Nat) : Except Trap Nat :=
  if a + b < wordLimit then .ok (a + b) else .error .overflow

/-- The difference of two words. -/
def sub (a b : Nat) : Except Trap Nat :=
  if b ≤ a then .ok (a - b) else .error .underflow

/-- The digits `start..=last`. The slice ends before `last + 1`, which must be a word; it
must not start after that end, nor end past the digits. -/
def slice (ds : Array Digit) (start last : Nat) : Except Trap (List Digit) := do
  let stop ← add last 1
  if stop < start then .error (.reversedSlice start stop)
  else if ds.size < stop then .error (.outOfBounds stop ds.size)
  else pure ((ds.toList.drop start).take (stop - start))

/-- Whether the digits read the same backwards: each index `lo` below `n / 2` against
`n - 1 - lo`, stopping at the first mismatch. -/
def isPalindrome (ds : Array Digit) : Except Trap Bool :=
  (List.range (ds.size / 2)).allM fun lo => do
    let front ← read ds lo
    let top ← sub ds.size 1
    let mirror ← sub top lo
    let back ← read ds mirror
    pure (front == back)

/-- The innermost window of a center; the right bound of a gap is `index + 1`. -/
def bounds : Center → Except Trap (Nat × Nat)
  | .digit i => pure (i, i)
  | .gap i => do
    let next ← add i 1
    pure (i, next)

/-- The text `digit i` or `gap i|i+1`. -/
def describe : Center → Except Trap String
  | .digit i => pure ("digit " ++ toString i)
  | .gap i => do
    let next ← add i 1
    pure ("gap " ++ toString i ++ "|" ++ toString next)

/-- The number of digits of a span, `last - start + 1`. -/
def spanLength (sp : Span) : Except Trap Nat := do
  let gap ← sub sp.last sp.start
  add gap 1

/-- The expansion loop: while the window does not start at 0, the index past its end is
below `n`, and the digits just outside agree, widen the window by one on each side. A
window starting at `left + 1` has its outside digit at `left`. -/
def widen (ds : Array Digit) : Nat → Nat → Except Trap (Nat × Nat)
  | 0, right => pure (0, right)
  | left + 1, right => do
    let next ← add right 1
    if next < ds.size then
      let outside ← read ds left
      let beyond ← read ds next
      if outside == beyond then widen ds left next else pure (left + 1, right)
    else pure (left + 1, right)

/-- The longest palindromic run around `center`: nothing when its right bound is past the
end or its two bounds hold different digits. The right bound is checked before either
digit is read. -/
def expand (ds : Array Digit) (center : Center) : Except Trap (Option Span) := do
  let (left, right) ← bounds center
  if ds.size ≤ right then pure none
  else
    let first ← read ds left
    let second ← read ds right
    if first == second then
      let (start, last) ← widen ds left right
      pure (Span.make? start last center)
    else pure none

/-- One step of the scan: expand around `center`, and keep the run when it is longer than
the best so far. -/
def keepLonger (ds : Array Digit) (best : Option Span) (center : Center) :
    Except Trap (Option Span) := do
  match ← expand ds center with
  | none => pure best
  | some sp =>
    let length ← spanLength sp
    let bestLength ← match best with
      | none => pure 0
      | some b => spanLength b
    pure (if bestLength < length then some sp else best)

/-- The earliest longest palindromic run, trying every center in scan order. -/
def longestSpan (ds : Array Digit) : Except Trap (Option Span) :=
  (centersUpTo ds.size).foldlM (keepLonger ds) none

/-- The scan: the best run, and the value of its digits sliced from the sequence. -/
def scan (s : DigitSeq) : Except Trap ScanResult := do
  let ds := s.digits.toArray
  let best ← longestSpan ds
  let bestValue ← match best with
    | none => pure none
    | some sp => do
      let window ← slice ds sp.start sp.last
      pure (some (digitsValue window))
  pure { best, bestValue }

/-- The digits of `start..=last`, sliced only after the range is found inside the
sequence. -/
def checkedWindow (s : DigitSeq) (start last : Nat) :
    Except Trap (Except AnalysisError (List Digit)) :=
  if last < start ∨ s.length ≤ last then pure (.error (.invalidRange start last s.length))
  else Except.ok <$> slice s.digits.toArray start last

/-- The integer the digits of `start..=last` write. -/
def reconstruct (s : DigitSeq) (start last : Nat) : Except Trap (Except AnalysisError Nat) :=
  (fun window => window.map digitsValue) <$> checkedWindow s start last

/-- The integer the digits of `start..=last` write, as a 64-bit word; the fold checks every
step, so only the slice can trap. -/
def reconstructWord (s : DigitSeq) (start last : Nat) :
    Except Trap (Except AnalysisError Nat) :=
  (fun window => window.bind fun ds =>
    match wordHorner ds 0 with
    | some v => .ok v
    | none => .error (.overflow ds.length)) <$> checkedWindow s start last

/-- The integer a sequence writes: zero when it is empty, else the reading of its whole
range, with zero in place of a reading that fails. -/
def value (s : DigitSeq) : Except Trap Nat :=
  if s.isEmpty then pure 0
  else do
    let last ← sub s.length 1
    let whole ← reconstruct s 0 last
    pure (match whole with
      | .ok v => v
      | .error _ => 0)

end Machine

end DigitPalindrome
