import Mathlib.Algebra.BigOperators.Group.Finset.Basic
import Mathlib.Tactic.Ring
import Mathlib.Data.List.TakeWhile
import DigitPalindrome.Digits
import DigitPalindrome.Range

/-!
# Positional values of digit lists

The value of a digit list is a Horner fold, most significant digit first. This
module shows that the fold is the positional sum `∑ dᵢ · 10 ^ (n - 1 - i)`, that
leading zeros do not change it, and that the decimal expansion of the value is
the list with its leading zeros removed. A canonical list is therefore recovered
from its value, and the decimal text of a value is its expansion written out.
-/

namespace DigitPalindrome

/-! ## The Horner fold -/

/-- Folding from a carry `acc` shifts the carry past every digit of the list. -/
theorem foldl_horner (ds : List Digit) (acc : Nat) :
    ds.foldl (fun acc d => 10 * acc + d.val) acc =
      acc * 10 ^ ds.length + digitsValue ds := by
  induction ds generalizing acc with
  | nil =>
      simp [digitsValue]
  | cons d rest inductionHypothesis =>
      have headValue :
          digitsValue (d :: rest) = d.val * 10 ^ rest.length + digitsValue rest := by
        rw [digitsValue, List.foldl_cons, inductionHypothesis]
        simp
      rw [List.foldl_cons, inductionHypothesis, headValue, List.length_cons, pow_succ]
      ring

@[simp]
theorem digitsValue_nil : digitsValue [] = 0 := rfl

@[simp]
theorem digitsValue_cons (d : Digit) (ds : List Digit) :
    digitsValue (d :: ds) = d.val * 10 ^ ds.length + digitsValue ds := by
  rw [digitsValue, List.foldl_cons, foldl_horner]
  simp

theorem digitsValue_append (xs ys : List Digit) :
    digitsValue (xs ++ ys) = digitsValue xs * 10 ^ ys.length + digitsValue ys := by
  rw [digitsValue, List.foldl_append, foldl_horner]
  rfl

theorem digitsValue_concat (xs : List Digit) (d : Digit) :
    digitsValue (xs ++ [d]) = 10 * digitsValue xs + d.val := by
  rw [digitsValue_append]
  simp [Nat.mul_comm]

theorem digitsValue_pos_of_head {d : Digit} {rest : List Digit} (nonzero : d ≠ 0) :
    0 < digitsValue (d :: rest) := by
  have positiveDigit : 0 < d.val := Fin.pos_iff_ne_zero.mpr nonzero
  rw [digitsValue_cons]
  have positivePower : 0 < 10 ^ rest.length := Nat.pow_pos (by decide)
  exact Nat.lt_add_right _ (Nat.mul_pos positiveDigit positivePower)

/-! ## The positional sum -/

/-- The positional reading of a digit list: the digit at index `i` of `n` weighs
`10 ^ (n - 1 - i)`. -/
def positionalValue (ds : List Digit) : Nat :=
  ∑ i ∈ Finset.range ds.length, (ds.getD i 0).val * 10 ^ (ds.length - 1 - i)

theorem positionalValue_cons (d : Digit) (ds : List Digit) :
    positionalValue (d :: ds) = d.val * 10 ^ ds.length + positionalValue ds := by
  rw [positionalValue, positionalValue, List.length_cons, Finset.sum_range_succ']
  have shifted :
      ∀ i ∈ Finset.range ds.length,
        ((d :: ds).getD (i + 1) 0).val * 10 ^ (ds.length + 1 - 1 - (i + 1)) =
          (ds.getD i 0).val * 10 ^ (ds.length - 1 - i) := by
    intro i _
    simp only [List.getD_cons_succ]
    congr 2
    omega
  rw [Finset.sum_congr rfl shifted, List.getD_cons_zero, Nat.add_sub_cancel, Nat.sub_zero,
    Nat.add_comm]

theorem digitsValue_eq_positionalValue (ds : List Digit) :
    digitsValue ds = positionalValue ds := by
  induction ds with
  | nil =>
      rfl
  | cons d rest inductionHypothesis =>
      rw [digitsValue_cons, positionalValue_cons, inductionHypothesis]

/-! ## Windows -/

theorem getElem?_window {s : DigitSeq} {start last k : Nat} (covered : k < last + 1 - start) :
    (s.window start last)[k]? = s.digits[start + k]? := by
  simp only [DigitSeq.window, List.getElem?_take_of_lt covered, List.getElem?_drop]

theorem length_window {s : DigitSeq} {start last : Nat} (inside : last < s.length) :
    (s.window start last).length = last + 1 - start := by
  simp only [DigitSeq.window, List.length_take, List.length_drop]
  simp only [DigitSeq.length] at inside
  omega

/-- The value of the window `start..=last` of a sequence is the positional sum of
the digits it covers, the last one weighing one. -/
theorem digitsValue_window {s : DigitSeq} {start last : Nat} (ordered : start ≤ last)
    (inside : last < s.length) :
    digitsValue (s.window start last) =
      ∑ k ∈ Finset.range (last - start + 1),
        (s.digits.getD (start + k) 0).val * 10 ^ (last - start - k) := by
  have windowLength : (s.window start last).length = last - start + 1 := by
    rw [length_window inside]
    omega
  rw [digitsValue_eq_positionalValue, positionalValue, windowLength]
  apply Finset.sum_congr rfl
  intro k member
  have covered : k < last + 1 - start := by
    rw [Finset.mem_range] at member
    omega
  have digitAt : (s.window start last).getD k 0 = s.digits.getD (start + k) 0 := by
    simp only [List.getD_eq_getElem?_getD, getElem?_window covered]
  rw [digitAt, Nat.add_sub_cancel]

/-- A range inside the sequence reads as the value of its window. -/
theorem reconstruct_eq_ok {s : DigitSeq} {start last : Nat} (ordered : start ≤ last)
    (inside : last < s.length) :
    s.reconstruct start last = .ok (digitsValue (s.window start last)) := by
  have accepted : ¬ (last < start ∨ s.length ≤ last) := by
    omega
  simp only [DigitSeq.reconstruct, DigitSeq.checkedWindow, if_neg accepted]

/-! ## Leading zeros -/

theorem val_beq_zero_iff {d : Digit} : (d.val == 0) = true ↔ d = 0 := by
  rw [beq_iff_eq]
  exact Fin.val_eq_zero_iff

theorem dropWhile_zero_eq_nil_iff {ds : List Digit} :
    ds.dropWhile (fun d => d.val == 0) = [] ↔ ∀ d ∈ ds, d = 0 := by
  rw [List.dropWhile_eq_nil_iff]
  exact forall₂_congr fun _ _ => val_beq_zero_iff

theorem all_val_beq_zero_iff {ds : List Digit} :
    ds.all (fun d => d.val == 0) = true ↔ ∀ d ∈ ds, d = 0 := by
  rw [List.all_eq_true]
  exact forall₂_congr fun _ _ => val_beq_zero_iff

theorem dropWhile_zero_cons_of_ne {d : Digit} (nonzero : d ≠ 0) (rest : List Digit) :
    (d :: rest).dropWhile (fun d => d.val == 0) = d :: rest := by
  have kept : ¬ (fun d : Digit => d.val == 0) d = true := mt val_beq_zero_iff.mp nonzero
  rw [List.dropWhile_cons, if_neg kept]

theorem head?_dropWhile_zero_ne (ds : List Digit) :
    (ds.dropWhile (fun d => d.val == 0)).head? ≠ some 0 := by
  intro headZero
  have headNonzero := List.head?_dropWhile_not (fun d : Digit => d.val == 0) ds
  rw [headZero] at headNonzero
  simp at headNonzero

/-- Removing leading zeros, case by case: `[0]` when every digit is zero, else the
list from its first digit other than zero. -/
theorem withoutLeadingZeros_eq (ds : List Digit) :
    withoutLeadingZeros ds =
      if ds.all (fun d => d.val == 0) then [0] else ds.dropWhile (fun d => d.val == 0) := by
  unfold withoutLeadingZeros
  cases stripped : ds.dropWhile (fun d => d.val == 0) with
  | nil =>
      rw [if_pos (all_val_beq_zero_iff.mpr (dropWhile_zero_eq_nil_iff.mp stripped))]
  | cons d rest =>
      have someNonzero : ¬ ds.all (fun d => d.val == 0) = true := by
        rw [all_val_beq_zero_iff, ← dropWhile_zero_eq_nil_iff, stripped]
        exact List.cons_ne_nil d rest
      rw [if_neg someNonzero]

theorem digitsValue_dropWhile_zero (ds : List Digit) :
    digitsValue (ds.dropWhile (fun d => d.val == 0)) = digitsValue ds := by
  induction ds with
  | nil =>
      rfl
  | cons d rest inductionHypothesis =>
      by_cases zero : d = 0
      · subst zero
        rw [List.dropWhile_cons_of_pos rfl, inductionHypothesis, digitsValue_cons]
        simp
      · rw [dropWhile_zero_cons_of_ne zero]

theorem digitsValue_withoutLeadingZeros (ds : List Digit) :
    digitsValue (withoutLeadingZeros ds) = digitsValue ds := by
  rw [withoutLeadingZeros_eq]
  split
  · next allZero =>
      rw [← digitsValue_dropWhile_zero ds,
        dropWhile_zero_eq_nil_iff.mpr (all_val_beq_zero_iff.mp allZero)]
      rfl
  · exact digitsValue_dropWhile_zero ds

/-! ## Canonical lists -/

/-- A digit list is canonical when it is not empty and has no leading zero, unless
it is exactly `[0]`: the form of the decimal expansion of a natural number. -/
def IsCanonical (ds : List Digit) : Prop :=
  ds ≠ [] ∧ (ds.head? = some 0 → ds = [0])

instance : DecidablePred IsCanonical :=
  fun _ => inferInstanceAs (Decidable (_ ∧ _))

theorem isCanonical_withoutLeadingZeros (ds : List Digit) :
    IsCanonical (withoutLeadingZeros ds) := by
  rw [withoutLeadingZeros_eq]
  split
  · exact ⟨by simp, fun _ => rfl⟩
  · next someNonzero =>
      have nonempty : ds.dropWhile (fun d => d.val == 0) ≠ [] := by
        rw [Ne, dropWhile_zero_eq_nil_iff, ← all_val_beq_zero_iff]
        exact someNonzero
      exact ⟨nonempty, fun headZero => absurd headZero (head?_dropWhile_zero_ne ds)⟩

theorem withoutLeadingZeros_of_isCanonical {ds : List Digit} (canonical : IsCanonical ds) :
    withoutLeadingZeros ds = ds := by
  obtain ⟨nonempty, zeroOnly⟩ := canonical
  cases ds with
  | nil =>
      contradiction
  | cons d rest =>
      by_cases zero : d = 0
      · rw [zeroOnly (by simp [zero])]
        rfl
      · have someNonzero : ¬ (d :: rest).all (fun d => d.val == 0) = true :=
          fun allZero => zero (all_val_beq_zero_iff.mp allZero d (by simp))
        rw [withoutLeadingZeros_eq, if_neg someNonzero, dropWhile_zero_cons_of_ne zero]

/-! ## Decimal expansions -/

theorem decimalDigits_of_lt {n : Nat} (small : n < 10) : decimalDigits n = [⟨n, small⟩] := by
  rw [decimalDigits, if_pos small]
  simp [Nat.mod_eq_of_lt small]

theorem decimalDigits_of_ge {n : Nat} (large : 10 ≤ n) :
    decimalDigits n = decimalDigits (n / 10) ++ [⟨n % 10, Nat.mod_lt _ (by decide)⟩] := by
  rw [decimalDigits, if_neg (by omega)]

/-- The loop's invariant: the digits pushed so far, then the expansion of what is left
read least significant first. -/
theorem pushDigits_eq {found : List Digit} {rest : Nat} (positive : 0 < rest) :
    pushDigits found rest = found ++ (decimalDigits rest).reverse := by
  fun_induction pushDigits found rest with
  | case1 found rest _ inductionHypothesis =>
      -- one digit is pushed; the loop stops when the quotient is zero
      by_cases small : rest < 10
      · rw [Nat.div_eq_of_lt small, pushDigits, if_neg (Nat.lt_irrefl 0),
          decimalDigits_of_lt small]
        simp [Nat.mod_eq_of_lt small]
      · rw [inductionHypothesis (by omega), @decimalDigits_of_ge rest (by omega)]
        simp
  | case2 found rest stopped =>
      exact absurd positive stopped

/-- The expansion the loop builds is the decimal expansion. -/
@[simp]
theorem DigitSeq.ofNat_digits (n : Nat) : (DigitSeq.ofNat n).digits = decimalDigits n := by
  unfold DigitSeq.ofNat
  by_cases zero : n = 0
  · rw [if_pos zero, zero, decimalDigits_of_lt (by decide)]
    rfl
  · rw [if_neg zero, pushDigits_eq (Nat.pos_of_ne_zero zero), List.nil_append,
      List.reverse_reverse]

/-- A canonical list is the decimal expansion of its own value. -/
theorem decimalDigits_digitsValue_of_isCanonical {ds : List Digit}
    (canonical : IsCanonical ds) : decimalDigits (digitsValue ds) = ds := by
  induction ds using List.reverseRecOn with
  | nil =>
      exact absurd rfl canonical.1
  | append_singleton xs d inductionHypothesis =>
      rw [digitsValue_concat]
      cases xs with
      | nil =>
          rw [decimalDigits_of_lt (by simp)]
          simp
      | cons x rest =>
          -- a canonical list of two or more digits starts with a digit other than zero
          have leadingNonzero : x ≠ 0 := by
            intro zero
            have single := canonical.2 (by simp [zero])
            simp at single
          have prefixCanonical : IsCanonical (x :: rest) :=
            ⟨by simp, fun headZero => absurd (by simpa using headZero) leadingNonzero⟩
          have positive : 0 < digitsValue (x :: rest) := digitsValue_pos_of_head leadingNonzero
          have quotient :
              (10 * digitsValue (x :: rest) + d.val) / 10 = digitsValue (x :: rest) := by
            omega
          have remainder :
              (⟨(10 * digitsValue (x :: rest) + d.val) % 10, Nat.mod_lt _ (by decide)⟩ : Digit) =
                d := by
            apply Fin.ext
            have small := d.isLt
            simp only
            omega
          rw [decimalDigits_of_ge (by omega), quotient, inductionHypothesis prefixCanonical,
            remainder]

/-- The decimal expansion of a list's value is the list without its leading zeros. -/
theorem decimalDigits_digitsValue (ds : List Digit) :
    decimalDigits (digitsValue ds) = withoutLeadingZeros ds := by
  rw [← digitsValue_withoutLeadingZeros,
    decimalDigits_digitsValue_of_isCanonical (isCanonical_withoutLeadingZeros ds)]

theorem Digit.toChar_eq_digitChar (d : Digit) : d.toChar = Nat.digitChar d.val := by
  revert d
  decide

/-- The characters of a decimal expansion are the decimal digits of the number. -/
theorem map_toChar_decimalDigits (n : Nat) :
    (decimalDigits n).map Digit.toChar = Nat.toDigits 10 n := by
  induction n using Nat.strong_induction_on with
  | _ n inductionHypothesis =>
      rw [Nat.toDigits_eq_if (by decide)]
      split
      · next small =>
          rw [decimalDigits_of_lt small]
          simp [Digit.toChar_eq_digitChar]
      · next large =>
          rw [decimalDigits_of_ge (by omega), List.map_append,
            inductionHypothesis (n / 10) (by omega)]
          simp [Digit.toChar_eq_digitChar]

/-- The decimal text of a number is its expansion written out. -/
theorem toString_eq_render_ofNat (n : Nat) : toString n = (DigitSeq.ofNat n).render := by
  rw [Nat.toString_eq_ofList_toDigits, DigitSeq.render, DigitSeq.ofNat_digits,
    map_toChar_decimalDigits]

end DigitPalindrome
