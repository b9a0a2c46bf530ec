import DigitPalindrome.Report
import DigitPalindrome.Proofs.LongestRun

/-!
# Whole-sequence palindromes

The whole-sequence check compares only the first half of the digits with their
mirror images; the scan reaches the whole sequence only through one center's
expansion. Both answer the same question: the check holds exactly when the digit
list equals its reverse, exactly when the scan's best run is the whole sequence
(or the sequence is empty), exactly when the best length is the length. So the
two reports of a sequence agree for every sequence, the empty one included.
-/

namespace DigitPalindrome

/-! ## The half-range check -/

theorem isPalindrome_eq_true_iff (s : DigitSeq) :
    s.isPalindrome = true ↔
      ∀ i, i < s.length / 2 → s.digits[i]? = s.digits[s.length - 1 - i]? := by
  simp [DigitSeq.isPalindrome, List.all_eq_true, DigitSeq.length]

/-- Comparing the first half with its mirror image decides whether the list equals its
reverse: an index in the second half is the mirror of one in the first half, or is the
middle of an odd length. -/
theorem forall_half_iff_reverse_eq (ds : List Digit) :
    (∀ i, i < ds.length / 2 → ds[i]? = ds[ds.length - 1 - i]?) ↔ ds.reverse = ds := by
  constructor
  · intro halves
    apply List.ext_getElem?
    intro k
    by_cases inside : k < ds.length
    · rw [List.getElem?_reverse inside]
      by_cases firstHalf : k < ds.length / 2
      · exact (halves k firstHalf).symm
      · by_cases mirrorFirst : ds.length - 1 - k < ds.length / 2
        · have mirrored := halves (ds.length - 1 - k) mirrorFirst
          rw [show ds.length - 1 - (ds.length - 1 - k) = k by omega] at mirrored
          exact mirrored
        · -- neither `k` nor its mirror is in the first half: `k` is the middle digit
          rw [show ds.length - 1 - k = k by omega]
    · have beyond : ds.length ≤ k := by
        omega
      rw [List.getElem?_eq_none (by simpa using beyond), List.getElem?_eq_none beyond]
  · intro same i firstHalf
    rw [← List.getElem?_reverse (by omega), same]

theorem window_whole {s : DigitSeq} (nonempty : 0 < s.length) :
    s.window 0 (s.length - 1) = s.digits := by
  have wholeLength : s.length - 1 + 1 - 0 = s.digits.length := by
    simp only [DigitSeq.length] at nonempty ⊢
    omega
  rw [DigitSeq.window, List.drop_zero, wholeLength, List.take_length]

/-- The whole of a non-empty sequence is a palindromic run exactly when the digits equal
their reverse. -/
theorem isPalindromicRun_whole_iff {s : DigitSeq} (nonempty : 0 < s.length) :
    IsPalindromicRun s 0 (s.length - 1) ↔ s.digits.reverse = s.digits := by
  constructor
  · rintro ⟨-, -, same⟩
    rwa [window_whole nonempty] at same
  · intro same
    refine ⟨Nat.zero_le _, by omega, ?_⟩
    rw [window_whole nonempty]
    exact same

/-! ## The scan on the whole sequence -/

/-- A palindromic run as long as the sequence is the whole sequence. -/
theorem whole_of_length_eq {s : DigitSeq} {sp : Span}
    (run : IsPalindromicRun s sp.start sp.last) (full : sp.last - sp.start + 1 = s.length) :
    sp.start = 0 ∧ sp.last = s.length - 1 := by
  obtain ⟨ordered, inside, -⟩ := run
  omega

/-- The digits equal their reverse exactly when the sequence is empty or the scan's best
run is the whole sequence. -/
theorem reverse_eq_iff_best_whole (s : DigitSeq) :
    s.digits.reverse = s.digits ↔
      s.length = 0 ∨ ∃ sp, s.scan.best = some sp ∧ sp.start = 0 ∧ sp.last = s.length - 1 := by
  constructor
  · intro same
    by_cases empty : s.length = 0
    · exact Or.inl empty
    · have nonempty : 0 < s.length := by
        omega
      have wholeRun := (isPalindromicRun_whole_iff nonempty).mpr same
      cases found : longestSpanIn s.digits.toArray with
      | none =>
          exact absurd ((longestSpanIn_eq_none_iff s).mp found) empty
      | some sp =>
          -- the best run is no shorter than the whole sequence, so it is the whole sequence
          obtain ⟨⟨run, longest, -⟩, -⟩ := longestSpanIn_eq_some found
          have noShorter := longest 0 (s.length - 1) wholeRun
          have inside := run.2.1
          refine Or.inr ⟨sp, by rw [DigitSeq.scan_best, found], whole_of_length_eq run (by omega)⟩
  · rintro (empty | ⟨sp, found, atStart, atEnd⟩)
    · rw [List.eq_nil_of_length_eq_zero empty]
      rfl
    · rw [DigitSeq.scan_best] at found
      obtain ⟨⟨run, -, -⟩, -⟩ := longestSpanIn_eq_some found
      have nonempty : 0 < s.length := by
        have inside := run.2.1
        omega
      rw [atStart, atEnd] at run
      exact (isPalindromicRun_whole_iff nonempty).mp run

theorem best_whole_iff_bestLength_eq (s : DigitSeq) :
    (s.length = 0 ∨ ∃ sp, s.scan.best = some sp ∧ sp.start = 0 ∧ sp.last = s.length - 1) ↔
      s.scan.bestLength = s.length := by
  rw [ScanResult.bestLength, DigitSeq.scan_best]
  cases found : longestSpanIn s.digits.toArray with
  | none =>
      have empty := (longestSpanIn_eq_none_iff s).mp found
      simp [bestLengthOf, empty]
  | some sp =>
      obtain ⟨⟨run, -, -⟩, -⟩ := longestSpanIn_eq_some found
      obtain ⟨ordered, inside, -⟩ := run
      simp only [bestLengthOf, Span.length, Option.some.injEq, exists_eq_left']
      omega

/-! ## The two reports agree -/

/-- The whole-sequence check, the reversal, and the scan agree on every sequence: the
check holds exactly when the digits equal their reverse, exactly when the sequence is
empty or its best run is all of it, exactly when the best length is the length. So the
check report's answer is whether the longest report's best length is the length. -/
theorem isPalindrome_agrees_with_scan (s : DigitSeq) :
    (s.isPalindrome = true ↔ s.reversed = s.digits) ∧
    (s.isPalindrome = true ↔
      s.length = 0 ∨ ∃ sp, s.scan.best = some sp ∧ sp.start = 0 ∧ sp.last = s.length - 1) ∧
    (s.isPalindrome = true ↔ s.scan.bestLength = s.length) ∧
    (CheckReport.ofSeq s).isPalindrome =
      ((LongestReport.ofSeq s).bestLength == (CheckReport.ofSeq s).length) := by
  have reversal : s.isPalindrome = true ↔ s.reversed = s.digits := by
    rw [isPalindrome_eq_true_iff, DigitSeq.reversed]
    exact forall_half_iff_reverse_eq s.digits
  have whole := reversal.trans (reverse_eq_iff_best_whole s)
  have lengths := whole.trans (best_whole_iff_bestLength_eq s)
  refine ⟨reversal, whole, lengths, ?_⟩
  simp only [CheckReport.ofSeq, LongestReport.ofSeq, LongestReport.ofScan]
  rw [Bool.eq_iff_iff, beq_iff_eq]
  exact lengths

end DigitPalindrome
