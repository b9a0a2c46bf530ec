import DigitPalindrome.Proofs.LongestRun

/-!
# Reading digit ranges

A range `start..=last` of a sequence is checked first: it is refused exactly when it
is reversed or reaches past the end, and every other range reads as the positional
sum of its digits, so leading zeros add nothing to it.

The word reading runs the same Horner fold but gives up as soon as the running value
leaves the 64-bit range. The running values of the fold never decrease, so it gives
up exactly when the final value does not fit: whether a range fits in a word depends
on its value and not on how many digits it has. The scan's best run lies inside its
sequence, so reading it as a word fails only by overflow.
-/

namespace DigitPalindrome

/-! ## The range check -/

section RangeCheck

variable {s : DigitSeq} {start last : Nat} {ds : List Digit}

theorem checkedWindow_eq_ok_iff :
    s.checkedWindow start last = .ok ds ↔
      start ≤ last ∧ last < s.length ∧ ds = s.window start last := by
  unfold DigitSeq.checkedWindow
  split
  · next refused =>
      simp only [reduceCtorEq, false_iff]
      omega
  · next accepted =>
      simp only [Except.ok.injEq]
      constructor
      · intro same
        exact ⟨by omega, by omega, same.symm⟩
      · rintro ⟨-, -, same⟩
        exact same.symm

theorem checkedWindow_of_refused (refused : last < start ∨ s.length ≤ last) :
    s.checkedWindow start last = .error (.invalidRange start last s.length) := by
  rw [DigitSeq.checkedWindow, if_pos refused]

theorem reconstruct_of_refused (refused : last < start ∨ s.length ≤ last) :
    s.reconstruct start last = .error (.invalidRange start last s.length) := by
  rw [DigitSeq.reconstruct, checkedWindow_of_refused refused]

theorem reconstruct_eq_error_iff :
    s.reconstruct start last = .error (.invalidRange start last s.length) ↔
      last < start ∨ s.length ≤ last := by
  by_cases refused : last < start ∨ s.length ≤ last
  · simp only [reconstruct_of_refused refused, refused]
  · rw [reconstruct_eq_ok (by omega) (by omega)]
    simp only [reduceCtorEq, false_iff]
    exact refused

end RangeCheck

/-! ## Leading zeros of a window -/

theorem digitsValue_eq_zero_of_forall {ds : List Digit} (zeros : ∀ d ∈ ds, d = 0) :
    digitsValue ds = 0 := by
  rw [← digitsValue_dropWhile_zero, dropWhile_zero_eq_nil_iff.mpr zeros, digitsValue_nil]

theorem digitsValue_drop_of_zeros {ds : List Digit} {count : Nat}
    (zeros : ∀ d ∈ ds.take count, d = 0) : digitsValue (ds.drop count) = digitsValue ds := by
  conv => rhs; rw [← List.take_append_drop count ds]
  rw [digitsValue_append, digitsValue_eq_zero_of_forall zeros, Nat.zero_mul, Nat.zero_add]

theorem window_drop (s : DigitSeq) {start later last : Nat} (startLe : start ≤ later) :
    (s.window start last).drop (later - start) = s.window later last := by
  have remaining : last + 1 - start - (later - start) = last + 1 - later := by
    omega
  have skipped : start + (later - start) = later := by
    omega
  simp only [DigitSeq.window, List.drop_take, List.drop_drop, remaining, skipped]

/-- A window whose first digits are zeros reads as the window without them. -/
theorem digitsValue_window_of_zeros {s : DigitSeq} {start later last : Nat}
    (startLe : start ≤ later) (laterLe : later ≤ last)
    (zeros : ∀ i, start ≤ i → i < later → s.digits.getD i 0 = 0) :
    digitsValue (s.window start last) = digitsValue (s.window later last) := by
  rw [← window_drop s startLe]
  symm
  apply digitsValue_drop_of_zeros
  intro d member
  obtain ⟨k, covered, rfl⟩ := List.getElem_of_mem member
  have offsetBelow : k < later - start := by
    simp only [List.length_take] at covered
    omega
  have windowAt : (s.window start last)[k]? = s.digits[start + k]? :=
    getElem?_window (by omega)
  have digitAt := zeros (start + k) (by omega) (by omega)
  rw [List.getD_eq_getElem?_getD, ← windowAt,
    List.getElem?_eq_getElem (by simp only [List.length_take] at covered; omega)] at digitAt
  rw [List.getElem_take]
  exact digitAt

/-- The range reading: a reversed range or one that reaches past the end is refused
with the range and the length; any other range reads as the positional sum of its
digits, the last one weighing one. A range whose first digits are zeros therefore
reads as the range without them. -/
theorem reconstruct_eq_positional_sum (s : DigitSeq) (start last : Nat) :
    s.reconstruct start last =
        (if last < start ∨ s.length ≤ last then .error (.invalidRange start last s.length)
        else .ok (∑ k ∈ Finset.range (last - start + 1),
          (s.digits.getD (start + k) 0).val * 10 ^ (last - start - k))) ∧
      ∀ later, start ≤ later → later ≤ last → last < s.length →
        (∀ i, start ≤ i → i < later → s.digits.getD i 0 = 0) →
          s.reconstruct start last = s.reconstruct later last := by
  refine ⟨?_, ?_⟩
  · split
    · next refused =>
        exact reconstruct_of_refused refused
    · next accepted =>
        rw [reconstruct_eq_ok (by omega) (by omega), digitsValue_window (by omega) (by omega)]
  · intro later startLe laterLe inside zeros
    rw [reconstruct_eq_ok (by omega) inside, reconstruct_eq_ok laterLe inside,
      digitsValue_window_of_zeros startLe laterLe zeros]

/-! ## The word reading -/

theorem le_foldl_horner (ds : List Digit) (acc : Nat) :
    acc ≤ ds.foldl (fun acc d => 10 * acc + d.val) acc := by
  rw [foldl_horner]
  have positivePower : 0 < 10 ^ ds.length := Nat.pow_pos (by decide)
  exact Nat.le_add_right_of_le (Nat.le_mul_of_pos_right acc positivePower)

theorem wordHorner_eq (ds : List Digit) {acc : Nat} (fits : acc < wordLimit) :
    wordHorner ds acc =
      if ds.foldl (fun acc d => 10 * acc + d.val) acc < wordLimit then
        some (ds.foldl (fun acc d => 10 * acc + d.val) acc)
      else none := by
  induction ds generalizing acc with
  | nil =>
      rw [wordHorner, List.foldl_nil, if_pos fits]
  | cons d rest inductionHypothesis =>
      rw [wordHorner, List.foldl_cons]
      by_cases nextFits : 10 * acc + d.val < wordLimit
      · simp only [fitsWord, nextFits, decide_true, if_true]
        exact inductionHypothesis nextFits
      · -- the running value only grows, so a final value above the word range follows
        have finalAbove := le_foldl_horner rest (10 * acc + d.val)
        have finalOver :
            ¬ rest.foldl (fun acc d => 10 * acc + d.val) (10 * acc + d.val) < wordLimit := by
          omega
        simp only [fitsWord, nextFits, decide_false]
        rw [if_neg finalOver]
        rfl

theorem wordHorner_zero (ds : List Digit) :
    wordHorner ds 0 = if digitsValue ds < wordLimit then some (digitsValue ds) else none :=
  wordHorner_eq ds (by decide)

theorem reconstructWord_eq_bind (s : DigitSeq) (start last : Nat) :
    s.reconstructWord start last =
      (s.reconstruct start last).bind fun v =>
        if v < wordLimit then .ok v else .error (.overflow (last - start + 1)) := by
  unfold DigitSeq.reconstructWord DigitSeq.reconstruct
  cases windowed : s.checkedWindow start last with
  | error e =>
      rfl
  | ok ds =>
      obtain ⟨ordered, inside, rfl⟩ := checkedWindow_eq_ok_iff.mp windowed
      by_cases fits : digitsValue (s.window start last) < wordLimit
      · simp only [wordHorner_zero, if_pos fits, Except.bind]
      · -- the overflow counts the digits of the window, leading zeros included
        have digitCount : (s.window start last).length = last - start + 1 := by
          rw [length_window inside]
          omega
        simp only [wordHorner_zero, if_neg fits, digitCount, Except.bind]

/-! ## The word value of the best run -/

theorem bestLength_of_best {s : DigitSeq} {sp : Span}
    (found : longestSpanIn s.digits.toArray = some sp) :
    s.scan.bestLength = sp.last - sp.start + 1 := by
  rw [ScanResult.bestLength, DigitSeq.scan_best, found]
  rfl

theorem wordValue_scan (s : DigitSeq) :
    s.scan.wordValue s =
      match s.scan.bestValue with
      | none => .ok none
      | some v => if v < wordLimit then .ok (some v) else .error (.overflow s.scan.bestLength) := by
  unfold ScanResult.wordValue
  rw [DigitSeq.scan_bestValue, DigitSeq.scan_best]
  cases found : longestSpanIn s.digits.toArray with
  | none =>
      rfl
  | some sp =>
      -- the best run lies inside the sequence, so the range check passes
      obtain ⟨⟨⟨ordered, inside, -⟩, -, -⟩, -⟩ := longestSpanIn_eq_some found
      simp only [Option.map_some]
      rw [reconstructWord_eq_bind, reconstruct_eq_ok ordered inside, bestLength_of_best found]
      by_cases fits : digitsValue (s.window sp.start sp.last) < wordLimit
      · simp only [Except.bind, if_pos fits]
      · simp only [Except.bind, if_neg fits]

/-- Reading a range as a 64-bit word agrees with reading it exactly. The range is
refused exactly when it is reversed or reaches past the end, as the exact reading
refuses it; any other range gives its exact value when that value is below `2 ^ 64`,
and an overflow naming the number of digits otherwise, so leading zeros never make a
range overflow. For the scan's best run, read from the sequence scanned, the word
value is nothing exactly when there is no best value, the best value when it fits,
an overflow naming the best length otherwise, and never a range error. -/
theorem reconstructWord_decided_by_value (s : DigitSeq) :
    (∀ start last,
      (s.reconstruct start last = .error (.invalidRange start last s.length) ↔
          last < start ∨ s.length ≤ last) ∧
        s.reconstructWord start last =
          (s.reconstruct start last).bind fun v =>
            if v < wordLimit then .ok v else .error (.overflow (last - start + 1))) ∧
    (s.scan.wordValue s = .ok none ↔ s.scan.bestValue = none) ∧
    (∀ v, s.scan.bestValue = some v →
      s.scan.wordValue s =
        if v < wordLimit then .ok (some v) else .error (.overflow s.scan.bestLength)) ∧
    ∀ start last length, s.scan.wordValue s ≠ .error (.invalidRange start last length) := by
  refine ⟨fun start last => ⟨reconstruct_eq_error_iff, reconstructWord_eq_bind s start last⟩,
    ?_, ?_, ?_⟩
  · rw [wordValue_scan]
    cases s.scan.bestValue with
    | none =>
        simp
    | some v =>
        simp only [reduceCtorEq, iff_false]
        split <;> simp
  · intro v valued
    rw [wordValue_scan, valued]
  · intro start last length
    rw [wordValue_scan]
    cases s.scan.bestValue with
    | none =>
        simp
    | some v =>
        simp only
        split <;> simp

end DigitPalindrome
