import DigitPalindrome.Scan
import DigitPalindrome.Proofs.Positional

/-!
# Palindromic runs and center expansion

A palindromic run is an inclusive window of a sequence that reads the same
backwards. Inside the sequence this is the same as the window's digits mirroring
each other about its middle, which is what expansion maintains: it starts from a
center's innermost window and widens it one digit on each side while the digits
just outside agree. The run it stops at is the longest one around that middle.

Every run has a middle `start + last`, the sum of its bounds, and that sum is the
sum of the bounds of exactly one center: the digit `i` has sum `2 i` and the gap
`i|i+1` has sum `2 i + 1`. The main statements, `expandIn_eq_some` and
`expandIn_eq_none`, say that expanding a center gives the longest palindromic run
with the center's middle, and nothing only when no palindromic run has that middle.
-/

namespace DigitPalindrome

/-! ## Palindromic runs -/

/-- The window `start..=last` of `s` is a palindromic run: it lies inside the
sequence and its digits read the same backwards. -/
def IsPalindromicRun (s : DigitSeq) (start last : Nat) : Prop :=
  start ≤ last ∧ last < s.length ∧ (s.window start last).reverse = s.window start last

instance (s : DigitSeq) (start last : Nat) : Decidable (IsPalindromicRun s start last) :=
  inferInstanceAs (Decidable (_ ∧ _ ∧ _))

/-- The digits of `start..=last` mirror each other about the middle of the window. -/
def Mirrored (ds : List Digit) (start last : Nat) : Prop :=
  ∀ i, start ≤ i → i ≤ last → ds[i]? = ds[start + last - i]?

/-- Inside the sequence, a window reads the same backwards exactly when its digits
mirror each other. -/
theorem reverse_window_eq_iff_mirrored {s : DigitSeq} {start last : Nat}
    (ordered : start ≤ last) (inside : last < s.length) :
    (s.window start last).reverse = s.window start last ↔ Mirrored s.digits start last := by
  have windowLength : (s.window start last).length = last + 1 - start := length_window inside
  constructor
  · intro same i lower upper
    have atOffset :
        (s.window start last).reverse[i - start]? = (s.window start last)[i - start]? := by
      rw [same]
    rw [List.getElem?_reverse (by omega), getElem?_window (by omega),
      getElem?_window (by omega), windowLength] at atOffset
    have mirrorIndex : start + (last + 1 - start - 1 - (i - start)) = start + last - i := by
      omega
    have ownIndex : start + (i - start) = i := by
      omega
    rw [mirrorIndex, ownIndex] at atOffset
    exact atOffset.symm
  · intro mirrored
    apply List.ext_getElem?
    intro k
    by_cases covered : k < last + 1 - start
    · rw [List.getElem?_reverse (by omega), getElem?_window (by omega),
        getElem?_window covered, windowLength]
      have mirrorIndex : start + (last + 1 - start - 1 - k) = start + last - (start + k) := by
        omega
      rw [mirrorIndex]
      exact (mirrored (start + k) (by omega) (by omega)).symm
    · have beyond : (s.window start last).length ≤ k := by
        omega
      rw [List.getElem?_eq_none (by simpa using beyond), List.getElem?_eq_none beyond]

theorem isPalindromicRun_iff_mirrored {s : DigitSeq} {start last : Nat} :
    IsPalindromicRun s start last ↔
      start ≤ last ∧ last < s.length ∧ Mirrored s.digits start last := by
  constructor
  · rintro ⟨ordered, inside, same⟩
    exact ⟨ordered, inside, (reverse_window_eq_iff_mirrored ordered inside).mp same⟩
  · rintro ⟨ordered, inside, mirrored⟩
    exact ⟨ordered, inside, (reverse_window_eq_iff_mirrored ordered inside).mpr mirrored⟩

/-! ## Mirrored windows -/

section Mirroring

variable {ds : List Digit}

/-- A mirrored window stays mirrored when the digits just outside it agree. -/
theorem Mirrored.widen {start last : Nat} (inner : Mirrored ds (start + 1) last)
    (outer : ds[start]? = ds[last + 1]?) : Mirrored ds start (last + 1) := by
  intro i lower upper
  by_cases atStart : i = start
  · subst atStart
    rw [show i + (last + 1) - i = last + 1 by omega]
    exact outer
  · by_cases atEnd : i = last + 1
    · subst atEnd
      rw [show start + (last + 1) - (last + 1) = start by omega]
      exact outer.symm
    · rw [show start + (last + 1) - i = start + 1 + last - i by omega]
      exact inner i (by omega) (by omega)

/-- A mirrored window with a given middle reaches no further left than a window with
that middle that cannot be widened. -/
theorem start_le_of_mirrored {start last a b : Nat} (windowOrdered : start ≤ last)
    (stopped : start = 0 ∨ ds.length ≤ last + 1 ∨ ds[start - 1]? ≠ ds[last + 1]?)
    (sameMiddle : a + b = start + last) (ordered : a ≤ b) (inside : b < ds.length)
    (mirrored : Mirrored ds a b) : start ≤ a := by
  apply Nat.le_of_not_lt
  intro earlier
  -- the window `a..=b` covers the pair just outside `start..=last`, which then agrees
  have outerAgree : ds[start - 1]? = ds[last + 1]? := by
    rw [mirrored (start - 1) (by omega) (by omega)]
    congr 1
    omega
  rcases stopped with atZero | atEnd | differ
  · omega
  · omega
  · exact differ outerAgree

theorem mirrored_bounds (c : Center) (agree : ds[c.bounds.1]? = ds[c.bounds.2]?) :
    Mirrored ds c.bounds.1 c.bounds.2 := by
  intro i lower upper
  cases c with
  | digit index =>
      simp only [Center.bounds] at lower upper ⊢
      rw [show index + index - i = i by omega]
  | gap index =>
      simp only [Center.bounds] at lower upper agree ⊢
      by_cases atLeft : i = index
      · subst atLeft
        rw [show i + (i + 1) - i = i + 1 by omega]
        exact agree
      · rw [show i = index + 1 by omega, show index + (index + 1) - (index + 1) = index by omega]
        exact agree.symm

/-- A mirrored window through the middle of a center covers the center's bounds, which
therefore hold equal digits. -/
theorem bounds_of_mirrored {a b : Nat} (c : Center) (ordered : a ≤ b) (inside : b < ds.length)
    (mirrored : Mirrored ds a b) (sameMiddle : a + b = c.bounds.1 + c.bounds.2) :
    c.bounds.2 < ds.length ∧ ds[c.bounds.1]? = ds[c.bounds.2]? := by
  cases c with
  | digit index =>
      refine ⟨?_, rfl⟩
      simp only [Center.bounds] at sameMiddle ⊢
      omega
  | gap index =>
      simp only [Center.bounds] at sameMiddle ⊢
      refine ⟨by omega, ?_⟩
      rw [mirrored index (by omega) (by omega)]
      congr 1
      omega

end Mirroring

/-! ## Widening -/

section Widening

variable (ds : List Digit)

theorem widen_sum (left right : Nat) :
    (widen ds.toArray left right).1 + (widen ds.toArray left right).2 = left + right := by
  fun_induction widen ds.toArray left right with
  | case1 right =>
      rfl
  | case2 left right extend inductionHypothesis =>
      rw [inductionHypothesis]
      omega
  | case3 left right stop =>
      rfl

theorem widen_fst_le (left right : Nat) : (widen ds.toArray left right).1 ≤ left := by
  fun_induction widen ds.toArray left right with
  | case1 right =>
      exact Nat.le_refl 0
  | case2 left right extend inductionHypothesis =>
      omega
  | case3 left right stop =>
      exact Nat.le_refl _

theorem widen_snd_ge (left right : Nat) : right ≤ (widen ds.toArray left right).2 := by
  have sum := widen_sum ds left right
  have leftward := widen_fst_le ds left right
  omega

theorem widen_snd_lt {left right : Nat} (inside : right < ds.length) :
    (widen ds.toArray left right).2 < ds.length := by
  fun_induction widen ds.toArray left right with
  | case1 right =>
      exact inside
  | case2 left right extend inductionHypothesis =>
      simp only [List.size_toArray] at extend
      exact inductionHypothesis extend.1
  | case3 left right stop =>
      exact inside

theorem widen_mirrored {left right : Nat} (mirrored : Mirrored ds left right) :
    Mirrored ds (widen ds.toArray left right).1 (widen ds.toArray left right).2 := by
  fun_induction widen ds.toArray left right with
  | case1 right =>
      exact mirrored
  | case2 left right extend inductionHypothesis =>
      simp only [List.getElem?_toArray] at extend
      exact inductionHypothesis (mirrored.widen extend.2)
  | case3 left right stop =>
      exact mirrored

/-- Widening stops at the start of the sequence, at its end, or where the digits just
outside the window differ. -/
theorem widen_stopped (left right : Nat) :
    (widen ds.toArray left right).1 = 0 ∨ ds.length ≤ (widen ds.toArray left right).2 + 1 ∨
      ds[(widen ds.toArray left right).1 - 1]? ≠ ds[(widen ds.toArray left right).2 + 1]? := by
  fun_induction widen ds.toArray left right with
  | case1 right =>
      exact Or.inl rfl
  | case2 left right extend inductionHypothesis =>
      exact inductionHypothesis
  | case3 left right stop =>
      simp only [List.size_toArray, List.getElem?_toArray] at stop
      by_cases beforeEnd : right + 1 < ds.length
      · exact Or.inr (Or.inr fun agree => stop ⟨beforeEnd, agree⟩)
      · exact Or.inr (Or.inl (by simp only; omega))

end Widening

/-! ## Expanding a center -/

theorem Center.bounds_ordered (c : Center) :
    c.bounds.1 ≤ c.bounds.2 ∧ c.bounds.2 ≤ c.bounds.1 + 1 := by
  cases c <;> simp [Center.bounds]

theorem widen_ordered (ds : List Digit) {left right : Nat} (ordered : left ≤ right) :
    (widen ds.toArray left right).1 ≤ (widen ds.toArray left right).2 := by
  have sum := widen_sum ds left right
  have leftward := widen_fst_le ds left right
  omega

/-- Expanding a center whose bounds lie inside the sequence and hold equal digits
widens its innermost window; any other center gives nothing. -/
theorem expandIn_eq (ds : List Digit) (c : Center) :
    expandIn ds.toArray c =
      if c.bounds.2 < ds.length ∧ ds[c.bounds.1]? = ds[c.bounds.2]? then
        some { start := (widen ds.toArray c.bounds.1 c.bounds.2).1,
               last := (widen ds.toArray c.bounds.1 c.bounds.2).2, center := c }
      else none := by
  have widened := widen_ordered ds c.bounds_ordered.1
  simp only [expandIn, List.size_toArray, List.getElem?_toArray]
  split
  · simp only [Span.make?, if_neg (Nat.not_lt.mpr widened)]
  · rfl

section Expansion

variable {s : DigitSeq} {c : Center} {sp : Span}

/-- A center with no expansion is the middle of no palindromic run. -/
theorem expandIn_eq_none (expanded : expandIn s.digits.toArray c = none) :
    ∀ a b, IsPalindromicRun s a b → a + b ≠ c.bounds.1 + c.bounds.2 := by
  intro a b run sameMiddle
  obtain ⟨ordered, inside, mirrored⟩ := isPalindromicRun_iff_mirrored.mp run
  have reached := bounds_of_mirrored c ordered inside mirrored sameMiddle
  rw [expandIn_eq, if_pos reached] at expanded
  cases expanded

/-- The expansion of a center is a palindromic run around the center's middle, and no
palindromic run with that middle starts before it. -/
theorem expandIn_eq_some (expanded : expandIn s.digits.toArray c = some sp) :
    sp.center = c ∧ sp.start + sp.last = c.bounds.1 + c.bounds.2 ∧
      IsPalindromicRun s sp.start sp.last ∧
      ∀ a b, IsPalindromicRun s a b → a + b = sp.start + sp.last → sp.start ≤ a := by
  rw [expandIn_eq] at expanded
  split at expanded
  · next reached =>
      cases expanded
      obtain ⟨inside, agree⟩ := reached
      have ordered := widen_ordered s.digits c.bounds_ordered.1
      have sum := widen_sum s.digits c.bounds.1 c.bounds.2
      refine ⟨rfl, sum, ?_, ?_⟩
      · exact isPalindromicRun_iff_mirrored.mpr
          ⟨ordered, widen_snd_lt s.digits inside,
            widen_mirrored s.digits (mirrored_bounds c agree)⟩
      · intro a b run sameMiddle
        obtain ⟨runOrdered, runInside, runMirrored⟩ := isPalindromicRun_iff_mirrored.mp run
        exact start_le_of_mirrored ordered (widen_stopped s.digits c.bounds.1 c.bounds.2)
          sameMiddle runOrdered runInside runMirrored
  · cases expanded

theorem expand_eq_none_iff :
    s.expand c = none ↔
      s.length ≤ c.bounds.2 ∨ s.digits[c.bounds.1]? ≠ s.digits[c.bounds.2]? := by
  rw [DigitSeq.expand, expandIn_eq, DigitSeq.length]
  by_cases reached :
      c.bounds.2 < s.digits.length ∧ s.digits[c.bounds.1]? = s.digits[c.bounds.2]?
  · rw [if_pos reached]
    simp only [reduceCtorEq, false_iff, not_or, Nat.not_le, not_not]
    exact reached
  · rw [if_neg reached]
    simp only [true_iff]
    by_cases beyond : s.digits.length ≤ c.bounds.2
    · exact Or.inl beyond
    · exact Or.inr fun agree => reached ⟨by omega, agree⟩

theorem expand_eq_widen (expanded : s.expand c = some sp) :
    sp.start = (widen s.digits.toArray c.bounds.1 c.bounds.2).1 ∧
      sp.last = (widen s.digits.toArray c.bounds.1 c.bounds.2).2 := by
  rw [DigitSeq.expand, expandIn_eq] at expanded
  split at expanded
  · cases expanded
    exact ⟨rfl, rfl⟩
  · cases expanded

/-- The expansion of a center, case by case. It is nothing exactly when the center's
right bound is past the end or its bounds hold different digits. Otherwise it is a
palindromic run around the center: it keeps the center and its middle, covers the
center's bounds, and no palindromic run with that middle starts before it, because
widening stopped at the start, at the end, or where the digits just outside differ. -/
theorem expand_longest_at_center (s : DigitSeq) (c : Center) :
    (s.expand c = none ↔
      s.length ≤ c.bounds.2 ∨ s.digits[c.bounds.1]? ≠ s.digits[c.bounds.2]?) ∧
    ∀ sp, s.expand c = some sp →
      sp.center = c ∧ sp.start + sp.last = c.bounds.1 + c.bounds.2 ∧
      sp.start ≤ c.bounds.1 ∧ c.bounds.2 ≤ sp.last ∧ IsPalindromicRun s sp.start sp.last ∧
      (∀ a b, IsPalindromicRun s a b → a + b = c.bounds.1 + c.bounds.2 → sp.start ≤ a) ∧
      (sp.start = 0 ∨ sp.last = s.length - 1 ∨
        s.digits[sp.start - 1]? ≠ s.digits[sp.last + 1]?) := by
  refine ⟨expand_eq_none_iff, ?_⟩
  intro sp expanded
  obtain ⟨centered, middle, run, earliest⟩ := expandIn_eq_some expanded
  obtain ⟨startEq, lastEq⟩ := expand_eq_widen expanded
  -- widening stopped at the start, at the end, or at two different digits
  have stopped := widen_stopped s.digits c.bounds.1 c.bounds.2
  rw [← startEq, ← lastEq] at stopped
  have inside : sp.last < s.length := run.2.1
  refine ⟨centered, middle, ?_, ?_, run, fun a b other sameMiddle =>
    earliest a b other (by omega), ?_⟩
  · rw [startEq]
    exact widen_fst_le s.digits c.bounds.1 c.bounds.2
  · rw [lastEq]
    exact widen_snd_ge s.digits c.bounds.1 c.bounds.2
  · rcases stopped with atStart | atEnd | differ
    · exact Or.inl atStart
    · exact Or.inr (Or.inl (by simp only [DigitSeq.length] at inside ⊢; omega))
    · exact Or.inr (Or.inr differ)

end Expansion

end DigitPalindrome
