import DigitPalindrome.Machine
import DigitPalindrome.Proofs.RangeReading
import DigitPalindrome.Proofs.WholeSequence

/-!
# Runs without traps

A machine run of the engine traps on a read past the end, on a slice that does not fit,
and on word arithmetic outside the 64-bit range. For a sequence whose length is a word
none of this happens: the whole-sequence check reads only the first half and its mirror,
each center the scan tries has its right bound checked against the end before a digit is
read, every run kept lies inside the sequence, and a range is sliced only after the range
check. So every machine run gives exactly the value of the engine's function, and the
value of a non-empty sequence is the reading of its whole range, never the fallback.

Words run out only at the very top: the length `last - start + 1` of a span is a word
except for the span `0..=2^64-1`, and the right bound `index + 1` of a center is a word
except for the gap at the last word.
-/

namespace DigitPalindrome

/-! ## Computations in `Except` -/

section ExceptRuns

variable {ε α β : Type}

@[simp]
theorem except_ok_bind (a : α) (f : α → Except ε β) : (Except.ok a >>= f) = f a := rfl

@[simp]
theorem except_pure (a : α) : (pure a : Except ε α) = .ok a := rfl

/-- A test that succeeds on every element with the value of a plain test runs as the
plain test over the list. -/
theorem allM_eq_ok {p : α → Except ε Bool} {q : α → Bool} (l : List α)
    (agree : ∀ x ∈ l, p x = .ok (q x)) : l.allM p = .ok (l.all q) := by
  induction l with
  | nil =>
      rfl
  | cons x rest inductionHypothesis =>
      have restAgree : ∀ y ∈ rest, p y = .ok (q y) :=
        fun y member => agree y (List.mem_cons_of_mem x member)
      rw [List.allM, agree x List.mem_cons_self, except_ok_bind, List.all_cons]
      cases q x with
      | false =>
          rfl
      | true =>
          rw [inductionHypothesis restAgree]
          rfl

/-- A fold whose step succeeds with the value of a plain step, from every state that
satisfies an invariant the plain step keeps, runs as the plain fold. -/
theorem foldlM_eq_ok (Inv : β → Prop) {f : β → α → Except ε β} {g : β → α → β} (l : List α)
    (step : ∀ b, Inv b → ∀ x ∈ l, f b x = .ok (g b x) ∧ Inv (g b x)) :
    ∀ init, Inv init → l.foldlM f init = .ok (l.foldl g init) := by
  induction l with
  | nil =>
      intro init _
      rfl
  | cons x rest inductionHypothesis =>
      intro init holds
      obtain ⟨stepped, kept⟩ := step init holds x List.mem_cons_self
      have restStep : ∀ b, Inv b → ∀ y ∈ rest, f b y = .ok (g b y) ∧ Inv (g b y) :=
        fun b bHolds y member => step b bHolds y (List.mem_cons_of_mem x member)
      rw [List.foldlM_cons, stepped, except_ok_bind, List.foldl_cons]
      exact inductionHypothesis restStep (g init x) kept

end ExceptRuns

/-- The whole range of a non-empty sequence reads as its value. -/
theorem reconstruct_whole {s : DigitSeq} (nonempty : s.length ≠ 0) :
    s.reconstruct 0 (s.length - 1) = .ok s.value := by
  rw [reconstruct_eq_ok (Nat.zero_le _) (by omega),
    window_whole (Nat.pos_of_ne_zero nonempty)]
  rfl

namespace Machine

/-! ## Steps that cannot trap -/

theorem read_of_lt {ds : Array Digit} {index : Nat} (inside : index < ds.size) :
    read ds index = .ok ds[index] := by
  rw [read, dif_pos inside]

theorem add_of_lt {a b : Nat} (fits : a + b < wordLimit) : add a b = .ok (a + b) := by
  rw [add, if_pos fits]

theorem add_of_le {a b : Nat} (tooLarge : wordLimit ≤ a + b) : add a b = .error .overflow := by
  rw [add, if_neg (Nat.not_lt.mpr tooLarge)]

theorem sub_of_le {a b : Nat} (below : b ≤ a) : sub a b = .ok (a - b) := by
  rw [sub, if_pos below]

theorem slice_of_inside {ds : Array Digit} {start last : Nat} (ordered : start ≤ last)
    (inside : last < ds.size) (short : ds.size < wordLimit) :
    slice ds start last = .ok ((ds.toList.drop start).take (last + 1 - start)) := by
  have noStartAfter : ¬ last + 1 < start := by
    omega
  have noEndPast : ¬ ds.size < last + 1 := by
    omega
  rw [slice, add_of_lt (by omega), except_ok_bind, if_neg noStartAfter, if_neg noEndPast]
  rfl

/-! ## The whole-sequence check -/

theorem isPalindrome_eq (s : DigitSeq) : isPalindrome s.digits.toArray = .ok s.isPalindrome := by
  unfold isPalindrome DigitSeq.isPalindrome
  apply allM_eq_ok
  intro lo member
  -- `lo` is in the first half, so both it and its mirror are indices of the digits
  have firstHalf : lo < s.digits.toArray.size / 2 := List.mem_range.mp member
  have front : lo < s.digits.toArray.size := by
    omega
  have back : s.digits.toArray.size - 1 - lo < s.digits.toArray.size := by
    omega
  rw [read_of_lt front, except_ok_bind, sub_of_le (by omega), except_ok_bind,
    sub_of_le (by omega), except_ok_bind, read_of_lt back, except_ok_bind, except_pure,
    Array.getElem?_eq_getElem front, Array.getElem?_eq_getElem back]
  simp

/-! ## Expanding a center -/

theorem widen_eq (ds : Array Digit) (short : ds.size < wordLimit) (left : Nat) :
    ∀ right, left ≤ right → right < ds.size →
      widen ds left right = .ok (DigitPalindrome.widen ds left right) := by
  induction left with
  | zero =>
      intro right _ _
      rfl
  | succ left inductionHypothesis =>
      intro right ordered inside
      -- the outside digit `left` lies before the end, and `right + 1` is a word
      have outsideInside : left < ds.size := by
        omega
      rw [Machine.widen, DigitPalindrome.widen, add_of_lt (by omega), except_ok_bind]
      by_cases beforeEnd : right + 1 < ds.size
      · rw [if_pos beforeEnd, read_of_lt outsideInside, except_ok_bind, read_of_lt beforeEnd,
          except_ok_bind, Array.getElem?_eq_getElem outsideInside,
          Array.getElem?_eq_getElem beforeEnd]
        by_cases agree : ds[left] = ds[right + 1]
        · rw [inductionHypothesis (right + 1) (by omega) beforeEnd]
          simp [agree, beforeEnd]
        · simp [agree]
      · rw [if_neg beforeEnd, except_pure, if_neg (fun extend => beforeEnd extend.1)]

theorem bounds_of_fits {c : Center} (fits : c.bounds.2 < wordLimit) : bounds c = .ok c.bounds := by
  cases c with
  | digit i =>
      rfl
  | gap i =>
      have nextFits : i + 1 < wordLimit := fits
      rw [Machine.bounds, add_of_lt nextFits]
      rfl

theorem expand_eq {ds : Array Digit} (short : ds.size < wordLimit) {c : Center}
    (fits : c.bounds.2 < wordLimit) : expand ds c = .ok (expandIn ds c) := by
  have ordered := c.bounds_ordered.1
  rw [Machine.expand, bounds_of_fits fits, except_ok_bind, expandIn]
  generalize c.bounds = window at ordered ⊢
  obtain ⟨left, right⟩ := window
  simp only at ordered ⊢
  by_cases beyond : ds.size ≤ right
  · -- the right bound is checked first: no digit is read
    have unreached : ¬ (right < ds.size ∧ ds[left]? = ds[right]?) :=
      fun reached => Nat.not_lt.mpr beyond reached.1
    rw [if_pos beyond, if_neg unreached, except_pure]
  · have rightInside : right < ds.size := Nat.lt_of_not_le beyond
    have leftInside : left < ds.size := by
      omega
    rw [if_neg beyond, read_of_lt leftInside, except_ok_bind, read_of_lt rightInside,
      except_ok_bind, Array.getElem?_eq_getElem leftInside, Array.getElem?_eq_getElem rightInside]
    by_cases agree : ds[left] = ds[right]
    · rw [widen_eq ds short left right ordered rightInside]
      generalize DigitPalindrome.widen ds left right = widened
      obtain ⟨start, last⟩ := widened
      simp [agree, rightInside]
    · simp [agree]

/-! ## The scan -/

/-- Every span that `best` holds lies inside the first `n` indices. -/
def SpanInside (n : Nat) (best : Option Span) : Prop :=
  ∀ sp, best = some sp → sp.start ≤ sp.last ∧ sp.last < n

theorem mem_centersUpTo {c : Center} {n : Nat} : c ∈ centersUpTo n ↔ c.index < n := by
  cases c <;> simp [centersUpTo, Center.index]

theorem bounds_snd_le_of_mem {c : Center} {n : Nat} (member : c ∈ centersUpTo n) :
    c.bounds.2 ≤ n := by
  have indexBelow := mem_centersUpTo.mp member
  cases c <;> simp only [Center.bounds, Center.index] at indexBelow ⊢ <;> omega

theorem spanInside_expandIn (s : DigitSeq) (c : Center) :
    SpanInside s.length (expandIn s.digits.toArray c) := by
  intro sp expanded
  obtain ⟨-, -, ⟨ordered, inside, -⟩, -⟩ := expandIn_eq_some expanded
  exact ⟨ordered, inside⟩

theorem spanLength_of_inside {sp : Span} {n : Nat} (ordered : sp.start ≤ sp.last)
    (inside : sp.last < n) (short : n < wordLimit) : spanLength sp = .ok sp.length := by
  rw [spanLength, sub_of_le ordered, except_ok_bind, add_of_lt (by omega)]
  rfl

/-- One step of the scan runs as the engine's step and keeps every span inside. -/
theorem keepLonger_eq {s : DigitSeq} (short : s.length < wordLimit) {best : Option Span}
    (bestInside : SpanInside s.length best) {c : Center} (member : c ∈ centersUpTo s.length) :
    keepLonger s.digits.toArray best c = .ok (DigitPalindrome.keepLonger s.digits.toArray best c) ∧
      SpanInside s.length (DigitPalindrome.keepLonger s.digits.toArray best c) := by
  have sizeEq : s.digits.toArray.size = s.length := List.size_toArray
  -- a center of the scan has an index below the length, so its right bound is a word
  have fits : c.bounds.2 < wordLimit := by
    have boundBelow := bounds_snd_le_of_mem member
    omega
  rw [Machine.keepLonger, expand_eq (by omega) fits, except_ok_bind, DigitPalindrome.keepLonger]
  have expandedInside := spanInside_expandIn s c
  cases expanded : expandIn s.digits.toArray c with
  | none =>
      exact ⟨rfl, bestInside⟩
  | some sp =>
      rw [expanded] at expandedInside
      obtain ⟨ordered, inside⟩ := expandedInside sp rfl
      have kept : SpanInside s.length (if bestLengthOf best < sp.length then some sp else best) := by
        split
        · exact expandedInside
        · exact bestInside
      simp only [spanLength_of_inside ordered inside short, except_ok_bind]
      cases best with
      | none =>
          exact ⟨rfl, kept⟩
      | some b =>
          obtain ⟨bestOrdered, bestBelow⟩ := bestInside b rfl
          simp only [spanLength_of_inside bestOrdered bestBelow short, except_ok_bind]
          exact ⟨rfl, kept⟩

theorem longestSpan_eq {s : DigitSeq} (short : s.length < wordLimit) :
    longestSpan s.digits.toArray = .ok (longestSpanIn s.digits.toArray) := by
  have sizeEq : s.digits.toArray.size = s.length := List.size_toArray
  have nothingYet : SpanInside s.length none := fun _ found => by cases found
  rw [longestSpan, longestSpanIn, sizeEq]
  exact foldlM_eq_ok (SpanInside s.length) (centersUpTo s.length)
    (fun best bestInside c member => keepLonger_eq short bestInside member) none nothingYet

theorem scan_eq {s : DigitSeq} (short : s.length < wordLimit) : scan s = .ok s.scan := by
  have sizeEq : s.digits.toArray.size = s.length := List.size_toArray
  rw [Machine.scan, longestSpan_eq short, except_ok_bind]
  cases found : longestSpanIn s.digits.toArray with
  | none =>
      simp only [DigitSeq.scan, found]
      rfl
  | some sp =>
      -- the best run is a palindromic run, so its slice lies inside the sequence
      obtain ⟨⟨⟨ordered, inside, -⟩, -, -⟩, -⟩ := longestSpanIn_eq_some found
      have sliced : slice s.digits.toArray sp.start sp.last = .ok (s.window sp.start sp.last) := by
        rw [slice_of_inside ordered (by omega) (by omega), List.toList_toArray]
        rfl
      simp only [sliced, DigitSeq.scan, found, except_ok_bind, except_pure, Option.map_some]

/-! ## Reading ranges -/

theorem checkedWindow_eq {s : DigitSeq} (short : s.length < wordLimit) (start last : Nat) :
    checkedWindow s start last = .ok (s.checkedWindow start last) := by
  have sizeEq : s.digits.toArray.size = s.length := List.size_toArray
  unfold Machine.checkedWindow DigitSeq.checkedWindow
  split
  · rfl
  · next accepted =>
      -- the range check leaves `start ≤ last < n`: the slice fits
      rw [slice_of_inside (by omega) (by omega) (by omega), Except.map_ok, List.toList_toArray]
      rfl

theorem reconstruct_eq {s : DigitSeq} (short : s.length < wordLimit) (start last : Nat) :
    reconstruct s start last = .ok (s.reconstruct start last) := by
  rw [Machine.reconstruct, checkedWindow_eq short, Except.map_ok, DigitSeq.reconstruct]
  cases s.checkedWindow start last <;> rfl

theorem reconstructWord_eq {s : DigitSeq} (short : s.length < wordLimit) (start last : Nat) :
    reconstructWord s start last = .ok (s.reconstructWord start last) := by
  rw [Machine.reconstructWord, checkedWindow_eq short, Except.map_ok, DigitSeq.reconstructWord]
  cases s.checkedWindow start last <;> rfl

theorem value_eq {s : DigitSeq} (short : s.length < wordLimit) : value s = .ok s.value := by
  unfold Machine.value
  split
  · next empty =>
      have noDigits : s.digits = [] := List.isEmpty_iff.mp empty
      rw [except_pure, DigitSeq.value, noDigits]
      rfl
  · next nonempty =>
      have someDigits : s.length ≠ 0 := fun zero =>
        nonempty (List.isEmpty_iff.mpr (List.length_eq_zero_iff.mp zero))
      rw [sub_of_le (by omega), except_ok_bind, reconstruct_eq short, except_ok_bind,
        reconstruct_whole someDigits]
      rfl

/-! ## Where words run out -/

theorem spanLength_eq {sp : Span} (ordered : sp.start ≤ sp.last) (lastWord : sp.last < wordLimit) :
    spanLength sp =
      if sp.start = 0 ∧ sp.last = wordLimit - 1 then .error .overflow else .ok sp.length := by
  rw [spanLength, sub_of_le ordered, except_ok_bind]
  split
  · next top =>
      exact add_of_le (by omega)
  · next below =>
      rw [add_of_lt (by omega)]
      rfl

theorem add_one_eq {i : Nat} (indexWord : i < wordLimit) :
    add i 1 = if i = wordLimit - 1 then .error .overflow else .ok (i + 1) := by
  split
  · next top =>
      exact add_of_le (by omega)
  · next below =>
      exact add_of_lt (by omega)

theorem bounds_eq {c : Center} (indexWord : c.index < wordLimit) :
    bounds c = if c = .gap (wordLimit - 1) then .error .overflow else .ok c.bounds := by
  cases c with
  | digit i =>
      rfl
  | gap i =>
      have indexBelow : i < wordLimit := indexWord
      rw [Machine.bounds, add_one_eq indexBelow]
      simp only [Center.gap.injEq]
      split <;> rfl

theorem describe_eq {c : Center} (indexWord : c.index < wordLimit) :
    describe c = if c = .gap (wordLimit - 1) then .error .overflow else .ok c.describe := by
  cases c with
  | digit i =>
      rfl
  | gap i =>
      have indexBelow : i < wordLimit := indexWord
      rw [Machine.describe, add_one_eq indexBelow]
      simp only [Center.gap.injEq]
      split <;> rfl

end Machine

theorem Span.make?_eq_none_iff {start last : Nat} {c : Center} :
    Span.make? start last c = none ↔ last < start := by
  unfold Span.make?
  by_cases reversed : last < start
  · rw [if_pos reversed]
    exact iff_of_true rfl reversed
  · rw [if_neg reversed]
    exact iff_of_false (Option.some_ne_none _) reversed

theorem Span.lengthFits_iff {sp : Span} (ordered : sp.start ≤ sp.last)
    (lastWord : sp.last < wordLimit) :
    sp.lengthFits = true ↔ ¬ (sp.start = 0 ∧ sp.last = wordLimit - 1) := by
  rw [Span.lengthFits, fitsWord, decide_eq_true_iff, Span.length]
  omega

theorem Center.boundsFit_iff {c : Center} (indexWord : c.index < wordLimit) :
    c.boundsFit = true ↔ c ≠ .gap (wordLimit - 1) := by
  cases c with
  | digit i =>
      have indexBelow : i < wordLimit := indexWord
      rw [Center.boundsFit, fitsWord, decide_eq_true_iff]
      exact iff_of_true indexBelow Center.noConfusion
  | gap i =>
      have indexBelow : i < wordLimit := indexWord
      rw [Center.boundsFit, fitsWord, decide_eq_true_iff, ne_eq, Center.gap.injEq]
      show i + 1 < wordLimit ↔ ¬ i = wordLimit - 1
      omega

theorem Span.make?_of_le {start last : Nat} {c : Center} (ordered : start ≤ last) :
    Span.make? start last c = some ⟨start, last, c⟩ := by
  rw [Span.make?, if_neg (Nat.not_lt.mpr ordered)]

/-- Spans and centers at the top of the word range. A span is made exactly when its start
is not past its end, and then covers `last - start + 1` digits, at least one. With word
bounds, the machine computes that length, and the length is a word, for every span but
`0..=2^64-1`, whose length overflows. A center with a word index has its right bound and
its text `gap i|i+1` computed, and its right bound is a word, for every center but the gap
at the last word, where `index + 1` overflows. -/
theorem span_lengths_and_center_bounds_fit_below_top (start last : Nat) (c : Center) :
    (Span.make? start last c = none ↔ last < start) ∧
    (start ≤ last → last < wordLimit →
      ∃ sp, Span.make? start last c = some sp ∧ sp.length = last - start + 1 ∧ 1 ≤ sp.length ∧
        Machine.spanLength sp =
          (if start = 0 ∧ last = wordLimit - 1 then .error .overflow else .ok sp.length) ∧
        (sp.lengthFits = true ↔ ¬ (start = 0 ∧ last = wordLimit - 1))) ∧
    (c.index < wordLimit →
      Machine.bounds c = (if c = .gap (wordLimit - 1) then .error .overflow else .ok c.bounds) ∧
      Machine.describe c =
        (if c = .gap (wordLimit - 1) then .error .overflow else .ok c.describe) ∧
      (c.boundsFit = true ↔ c ≠ .gap (wordLimit - 1))) := by
  refine ⟨Span.make?_eq_none_iff, ?_, ?_⟩
  · intro ordered lastWord
    refine ⟨⟨start, last, c⟩, Span.make?_of_le ordered, rfl, Nat.succ_pos _, ?_, ?_⟩
    · exact @Machine.spanLength_eq ⟨start, last, c⟩ ordered lastWord
    · exact @Span.lengthFits_iff ⟨start, last, c⟩ ordered lastWord
  · intro indexWord
    exact ⟨Machine.bounds_eq indexWord, Machine.describe_eq indexWord,
      Center.boundsFit_iff indexWord⟩

/-- Below the top the machine computes: the span `3..=7` has length 5, and the gap `4|5`
has bounds `(4, 5)`. -/
theorem span_and_gap_computed_below_top :
    Machine.spanLength ⟨3, 7, .gap 4⟩ = .ok 5 ∧ Machine.bounds (.gap 4) = .ok (4, 5) := by
  obtain ⟨-, spans, centers⟩ := span_lengths_and_center_bounds_fit_below_top 3 7 (.gap 4)
  obtain ⟨sp, made, -, -, lengthRun, -⟩ := spans (by decide) (by decide)
  rw [Span.make?_of_le (by decide)] at made
  cases made
  obtain ⟨boundsRun, -, -⟩ := centers (by decide)
  rw [if_neg (by decide)] at lengthRun
  rw [if_neg (by decide)] at boundsRun
  exact ⟨lengthRun, boundsRun⟩

/-- The span `0..=2^64-1` is made, and its length overflows; so does the right bound of the
gap at the last word. -/
theorem full_word_span_and_last_gap_overflow :
    Span.make? 0 (wordLimit - 1) (.digit 0) = some ⟨0, wordLimit - 1, .digit 0⟩ ∧
      Machine.spanLength ⟨0, wordLimit - 1, .digit 0⟩ = .error .overflow ∧
      Machine.bounds (.gap (wordLimit - 1)) = .error .overflow := by
  have lengthRun := @Machine.spanLength_eq ⟨0, wordLimit - 1, .digit 0⟩ (Nat.zero_le _)
    (by decide)
  have boundsRun := @Machine.bounds_eq (.gap (wordLimit - 1)) (by decide)
  rw [if_pos ⟨rfl, rfl⟩] at lengthRun
  rw [if_pos rfl] at boundsRun
  exact ⟨Span.make?_of_le (Nat.zero_le _), lengthRun, boundsRun⟩

/-- The engine never traps on a sequence whose length is a word. The whole-sequence check
reads only indices below `n / 2` and their mirrors; every center the scan tries reads a
digit only after its right bound is found below `n`, widens only from a start above 0 and
while the index past the end is below `n`, and gives a run with `start ≤ last < n`; so the
scan and the slice of its best run run through. A range is sliced only after the range
check, whatever its bounds; and the value of a non-empty sequence is the reading of its
whole range, never the fallback. -/
theorem engine_runs_without_traps (s : DigitSeq) (short : s.length < wordLimit) :
    Machine.isPalindrome s.digits.toArray = .ok s.isPalindrome ∧
    (∀ c ∈ centersUpTo s.length, Machine.expand s.digits.toArray c = .ok (s.expand c) ∧
      ∀ sp, s.expand c = some sp → sp.start ≤ sp.last ∧ sp.last < s.length) ∧
    Machine.scan s = .ok s.scan ∧
    (∀ start last, Machine.checkedWindow s start last = .ok (s.checkedWindow start last) ∧
      Machine.reconstruct s start last = .ok (s.reconstruct start last) ∧
      Machine.reconstructWord s start last = .ok (s.reconstructWord start last)) ∧
    (s.length ≠ 0 → s.reconstruct 0 (s.length - 1) = .ok s.value) ∧
    Machine.value s = .ok s.value := by
  have sizeEq : s.digits.toArray.size = s.length := List.size_toArray
  refine ⟨Machine.isPalindrome_eq s, ?_, Machine.scan_eq short,
    fun start last => ⟨Machine.checkedWindow_eq short start last,
      Machine.reconstruct_eq short start last, Machine.reconstructWord_eq short start last⟩,
    reconstruct_whole, Machine.value_eq short⟩
  intro c member
  have boundBelow := Machine.bounds_snd_le_of_mem member
  exact ⟨Machine.expand_eq (by omega) (by omega), Machine.spanInside_expandIn s c⟩

/-- On the digits `1 2 2 1 3`, the scan runs through without a trap. -/
theorem scan_runs_without_traps_on_12213 :
    (⟨[1, 2, 2, 1, 3]⟩ : DigitSeq).length < wordLimit ∧
      Machine.scan ⟨[1, 2, 2, 1, 3]⟩ = .ok (DigitSeq.scan ⟨[1, 2, 2, 1, 3]⟩) :=
  ⟨by decide, (engine_runs_without_traps ⟨[1, 2, 2, 1, 3]⟩ (by decide)).2.2.1⟩

end DigitPalindrome
