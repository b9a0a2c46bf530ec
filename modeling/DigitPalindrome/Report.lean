import DigitPalindrome.Json.Tree
import DigitPalindrome.Mirror
import DigitPalindrome.Scan

/-!
# Reports

A check report answers whether the whole sequence is a palindrome; a longest
report gives the earliest longest palindromic run. Both carry the sequence they
describe, and both have a JSON form with their fields in declaration order.
-/

namespace DigitPalindrome

/-- The answer of a whole-sequence check. -/
structure CheckReport where
  /-- The sequence as written, leading zeros kept. -/
  input : String
  /-- The sequence itself. -/
  digits : DigitSeq
  /-- The number of digits. -/
  length : Nat
  /-- Whether the sequence reads the same backwards. -/
  isPalindrome : Bool
  deriving DecidableEq, Repr

/-- The answer of a longest-run search. -/
structure LongestReport where
  /-- The sequence as written, leading zeros kept. -/
  input : String
  /-- The sequence itself. -/
  digits : DigitSeq
  /-- The length of the best run; zero for the empty sequence. -/
  bestLength : Nat
  /-- The integer the best run writes. -/
  bestValue : Option Nat
  /-- The first index of the best run. -/
  start : Option Nat
  /-- The last index of the best run. -/
  last : Option Nat
  /-- The center the best run grew from. -/
  center : Option Center
  deriving DecidableEq, Repr

namespace CheckReport

/-- The check report of a sequence. -/
def ofSeq (s : DigitSeq) : CheckReport :=
  { input := s.render, digits := s, length := s.length, isPalindrome := s.isPalindrome }

end CheckReport

namespace LongestReport

/-- The report of a finished scan of `s`. -/
def ofScan (s : DigitSeq) (r : ScanResult) : LongestReport :=
  { input := s.render, digits := s, bestLength := r.bestLength, bestValue := r.bestValue,
    start := r.best.map Span.start, last := r.best.map Span.last,
    center := r.best.map Span.center }

/-- The longest report of a sequence. -/
def ofSeq (s : DigitSeq) : LongestReport := ofScan s s.scan

/-- The best value as text, or `none` when there is no run. -/
def valueText (r : LongestReport) : String :=
  match r.bestValue with
  | some v => toString v
  | none => "none"

end LongestReport

/-- A sequence as a JSON array of its digits. -/
def DigitSeq.toJson (s : DigitSeq) : JsonTree :=
  .list (s.digits.map fun d => .nat d.val)

/-- A center as `{"kind": ..., "index": ...}`. -/
def Center.toJson (c : Center) : JsonTree :=
  .object [("kind", .text c.kindName), ("index", .nat c.index)]

/-- An optional value as JSON, `null` when absent. -/
def optionJson {α : Type} (f : α → JsonTree) : Option α → JsonTree
  | some a => f a
  | none => .null

/-- The JSON form of a check report. -/
def CheckReport.toJson (r : CheckReport) : JsonTree :=
  .object [("input", .text r.input), ("digits", r.digits.toJson), ("length", .nat r.length),
    ("is_palindrome", .bool r.isPalindrome)]

/-- The JSON form of a longest report; the best value is a decimal string. -/
def LongestReport.toJson (r : LongestReport) : JsonTree :=
  .object [("input", .text r.input), ("digits", r.digits.toJson),
    ("best_length", .nat r.bestLength),
    ("best_value", optionJson (fun v => .text (toString v)) r.bestValue),
    ("start", optionJson .nat r.start), ("end", optionJson .nat r.last),
    ("center", optionJson Center.toJson r.center)]

end DigitPalindrome
