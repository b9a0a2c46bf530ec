import DigitPalindrome.Proofs.Expansion
import DigitPalindrome.Proofs.Positional

/-!
# The scan finds the earliest longest palindromic run

The scan visits the centers in the order digit `0`, gap `0|1`, digit `1`, …, whose
middles are `0, 1, 2, …`, and keeps a center's run only when it is strictly longer
than the best so far. After the centers with middle below `bound`, the best run is
the earliest longest among the palindromic runs with middle below `bound`
(`BestBelow`). A step keeps this because a center's run is the longest with its
middle, and because two runs of one length are ordered by their starts exactly as
by their middles. After all centers every palindromic run has been counted, and
`scan_finds_earliest_longest_run` reads off the whole result of the scan.
-/

namespace DigitPalindrome

/-! ## The specification -/

/-- `start..=last` is the earliest longest palindromic run of `s`: a palindromic run
that no palindromic run is longer than, and that every palindromic run of the same
length starts at or after. -/
def IsEarliestLongestRun (s : DigitSeq) (start last : Nat) : Prop :=
  IsPalindromicRun s start last ∧
    (∀ a b, IsPalindromicRun s a b → b - a ≤ last - start) ∧
    (∀ a b, IsPalindromicRun s a b → b - a = last - start → start ≤ a)

/-- The scan's state after the centers whose middles are below `bound`: nothing when
no palindromic run has its middle below `bound`, else a run with its own center that
ranks first among those runs, by length and then by start. -/
def BestBelow (s : DigitSeq) (bound : Nat) : Option Span → Prop
  | none => ∀ a b, IsPalindromicRun s a b → bound ≤ a + b
  | some sp =>
      IsPalindromicRun s sp.start sp.last ∧ sp.start + sp.last < bound ∧
        sp.center.bounds.1 + sp.center.bounds.2 = sp.start + sp.last ∧
        ∀ a b, IsPalindromicRun s a b → a + b < bound →
          b - a < sp.last - sp.start ∨ (b - a = sp.last - sp.start ∧ sp.start ≤ a)

@[simp]
theorem DigitSeq.scan_best (s : DigitSeq) : s.scan.best = longestSpanIn s.digits.toArray := rfl

@[simp]
theorem DigitSeq.scan_bestValue (s : DigitSeq) :
    s.scan.bestValue =
      (longestSpanIn s.digits.toArray).map fun sp => digitsValue (s.window sp.start sp.last) :=
  rfl

theorem centersUpTo_succ (count : Nat) :
    centersUpTo (count + 1) = centersUpTo count ++ [.digit count, .gap count] := by
  simp [centersUpTo, List.range_succ]

theorem IsPalindromicRun.ordered {s : DigitSeq} {a b : Nat} (run : IsPalindromicRun s a b) :
    a ≤ b :=
  run.1

/-! ## One center -/

section Step

variable {s : DigitSeq}

/-- Among the runs with a center's middle, the center's expansion ranks first. -/
theorem ranks_first_at_middle {c : Center} {found : Span}
    (expanded : expandIn s.digits.toArray c = some found) {a b : Nat}
    (run : IsPalindromicRun s a b) (sameMiddle : a + b = c.bounds.1 + c.bounds.2) :
    b - a < found.last - found.start ∨ (b - a = found.last - found.start ∧ found.start ≤ a) := by
  obtain ⟨-, foundMiddle, -, foundMaximal⟩ := expandIn_eq_some expanded
  have startsLater := foundMaximal a b run (by omega)
  have ordered := run.ordered
  omega

/-- Trying one more center, the one whose middle is `bound`, extends the invariant to
the runs with middle `bound`. -/
theorem bestBelow_keepLonger {bound : Nat} {best : Option Span} {c : Center}
    (before : BestBelow s bound best) (middle : c.bounds.1 + c.bounds.2 = bound) :
    BestBelow s (bound + 1) (keepLonger s.digits.toArray best c) := by
  unfold keepLonger
  cases expanded : expandIn s.digits.toArray c with
  | none =>
      -- no run has the center's middle: the runs below `bound + 1` are those below `bound`
      have noRun := expandIn_eq_none expanded
      cases best with
      | none =>
          intro a b run
          have after := before a b run
          have notMiddle := noRun a b run
          omega
      | some sp =>
          obtain ⟨run, below, centered, ranks⟩ := before
          refine ⟨run, by omega, centered, ?_⟩
          intro a b otherRun otherBelow
          have notMiddle := noRun a b otherRun
          exact ranks a b otherRun (by omega)
  | some found =>
      dsimp only
      obtain ⟨foundCenter, foundMiddle, foundRun, -⟩ := expandIn_eq_some expanded
      have foundCentered :
          found.center.bounds.1 + found.center.bounds.2 = found.start + found.last := by
        rw [foundCenter]
        omega
      cases best with
      | none =>
          have longer : bestLengthOf none < found.length := by
            simp [bestLengthOf, Span.length]
          rw [if_pos longer]
          refine ⟨foundRun, by omega, foundCentered, ?_⟩
          intro a b run below
          have notBefore := before a b run
          exact ranks_first_at_middle expanded run (by omega)
      | some sp =>
          obtain ⟨run, below, centered, ranks⟩ := before
          have spOrdered := run.ordered
          have foundOrdered := foundRun.ordered
          by_cases longer : bestLengthOf (some sp) < found.length
          · -- the new run is longer than every run before its middle
            rw [if_pos longer]
            simp only [bestLengthOf, Span.length] at longer
            refine ⟨foundRun, by omega, foundCentered, ?_⟩
            intro a b otherRun otherBelow
            by_cases atMiddle : a + b = bound
            · exact ranks_first_at_middle expanded otherRun (by omega)
            · have earlier := ranks a b otherRun (by omega)
              omega
          · -- the kept run is at least as long, and a run of its length with a later
            -- middle starts later
            rw [if_neg longer]
            simp only [bestLengthOf, Span.length] at longer
            refine ⟨run, by omega, centered, ?_⟩
            intro a b otherRun otherBelow
            by_cases atMiddle : a + b = bound
            · have atFound := ranks_first_at_middle expanded otherRun (by omega)
              have otherOrdered := otherRun.ordered
              omega
            · exact ranks a b otherRun (by omega)

end Step

/-! ## The whole scan -/

/-- After the centers of the first `count` indices, both kinds at each, the invariant
holds up to middle `2 * count`. -/
theorem bestBelow_centersUpTo (s : DigitSeq) (count : Nat) :
    BestBelow s (2 * count) ((centersUpTo count).foldl (keepLonger s.digits.toArray) none) := by
  induction count with
  | zero =>
      intro a b run
      omega
  | succ count inductionHypothesis =>
      rw [centersUpTo_succ, List.foldl_append, List.foldl_cons, List.foldl_cons, List.foldl_nil]
      have afterDigit := bestBelow_keepLonger (c := .digit count) inductionHypothesis
        (by simp only [Center.bounds]; omega)
      have afterGap := bestBelow_keepLonger (c := .gap count) afterDigit
        (by simp only [Center.bounds]; omega)
      rw [show 2 * (count + 1) = 2 * count + 1 + 1 by omega]
      exact afterGap

theorem bestBelow_longestSpanIn (s : DigitSeq) :
    BestBelow s (2 * s.length) (longestSpanIn s.digits.toArray) :=
  bestBelow_centersUpTo s s.digits.length

/-- Every palindromic run lies inside the sequence, so its middle is below `2 n`. -/
theorem IsPalindromicRun.middle_lt {s : DigitSeq} {a b : Nat} (run : IsPalindromicRun s a b) :
    a + b < 2 * s.length := by
  obtain ⟨ordered, inside, -⟩ := run
  omega

theorem isPalindromicRun_single {s : DigitSeq} {i : Nat} (inside : i < s.length) :
    IsPalindromicRun s i i := by
  refine isPalindromicRun_iff_mirrored.mpr ⟨Nat.le_refl i, inside, ?_⟩
  intro j lower upper
  rw [show i + i - j = j by omega]

/-- The scan finds nothing only in the empty sequence. -/
theorem longestSpanIn_eq_none_iff (s : DigitSeq) :
    longestSpanIn s.digits.toArray = none ↔ s.length = 0 := by
  have invariant := bestBelow_longestSpanIn s
  constructor
  · intro nothing
    rw [nothing] at invariant
    apply Nat.eq_zero_of_not_pos
    intro nonempty
    have firstDigit := invariant 0 0 (isPalindromicRun_single nonempty)
    omega
  · intro empty
    cases found : longestSpanIn s.digits.toArray with
    | none =>
        rfl
    | some sp =>
        rw [found] at invariant
        have inside := invariant.1.2.1
        omega

/-- What the scan finds is the earliest longest palindromic run, with the center whose
middle it has. -/
theorem longestSpanIn_eq_some {s : DigitSeq} {sp : Span}
    (found : longestSpanIn s.digits.toArray = some sp) :
    IsEarliestLongestRun s sp.start sp.last ∧
      sp.center.bounds.1 + sp.center.bounds.2 = sp.start + sp.last := by
  have invariant := bestBelow_longestSpanIn s
  rw [found] at invariant
  obtain ⟨run, -, centered, ranks⟩ := invariant
  refine ⟨⟨run, ?_, ?_⟩, centered⟩
  · intro a b other
    have ranked := ranks a b other other.middle_lt
    omega
  · intro a b other sameLength
    have ranked := ranks a b other other.middle_lt
    omega

/-- A center is determined by its middle: the digit in the middle of a window of odd
length, the gap in the middle of one of even length. -/
theorem Center.eq_of_middle {c : Center} {start last : Nat} (ordered : start ≤ last)
    (centered : c.bounds.1 + c.bounds.2 = start + last) :
    c = if (last - start + 1) % 2 = 1 then .digit ((start + last) / 2)
      else .gap ((start + last - 1) / 2) := by
  cases c with
  | digit index =>
      simp only [Center.bounds] at centered
      rw [if_pos (by omega)]
      congr 1
      omega
  | gap index =>
      simp only [Center.bounds] at centered
      rw [if_neg (by omega)]
      congr 1
      omega

/-! ## The result of the scan -/

/-- The scan of any sequence agrees with the exhaustive search. An empty sequence has
no run, no value and length zero. Any other has a best run: the earliest longest
palindromic run, its length the best length, its center the digit or gap in its
middle, and its value the range reading of its digits, the positional sum
`∑ d[start + k] · 10 ^ (last - start - k)`. -/
theorem scan_finds_earliest_longest_run (s : DigitSeq) :
    (s.length = 0 ∧ s.scan.best = none ∧ s.scan.bestValue = none ∧ s.scan.isNone = true ∧
        s.scan.bestLength = 0) ∨
    (0 < s.length ∧ ∃ sp, s.scan.best = some sp ∧ IsEarliestLongestRun s sp.start sp.last ∧
        s.scan.bestLength = sp.last - sp.start + 1 ∧
        sp.center = (if (sp.last - sp.start + 1) % 2 = 1 then .digit ((sp.start + sp.last) / 2)
          else .gap ((sp.start + sp.last - 1) / 2)) ∧
        ∃ v, s.reconstruct sp.start sp.last = .ok v ∧ s.scan.bestValue = some v ∧
          v = ∑ k ∈ Finset.range (sp.last - sp.start + 1),
            (s.digits.getD (sp.start + k) 0).val * 10 ^ (sp.last - sp.start - k)) := by
  cases found : longestSpanIn s.digits.toArray with
  | none =>
      left
      refine ⟨(longestSpanIn_eq_none_iff s).mp found, ?_, ?_, ?_, ?_⟩
      · rw [DigitSeq.scan_best, found]
      · rw [DigitSeq.scan_bestValue, found]
        rfl
      · rw [ScanResult.isNone, DigitSeq.scan_best, found]
        rfl
      · rw [ScanResult.bestLength, DigitSeq.scan_best, found]
        rfl
  | some sp =>
      right
      obtain ⟨earliestLongest, centered⟩ := longestSpanIn_eq_some found
      obtain ⟨ordered, inside, -⟩ := earliestLongest.1
      refine ⟨by omega, sp, by rw [DigitSeq.scan_best, found], earliestLongest, ?_,
        Center.eq_of_middle ordered centered, ?_⟩
      · rw [ScanResult.bestLength, DigitSeq.scan_best, found]
        rfl
      · refine ⟨digitsValue (s.window sp.start sp.last), reconstruct_eq_ok ordered inside, ?_,
          digitsValue_window ordered inside⟩
        rw [DigitSeq.scan_bestValue, found]
        rfl

end DigitPalindrome
