import Mathlib.Data.Nat.Log
import DigitPalindrome.Literal
import DigitPalindrome.Proofs.WholeSequence
import DigitPalindrome.Proofs.RangeReading

/-!
# Sequences built from integers and from raw digit values

The expansion of a natural number is its decimal expansion, most significant digit
first: canonical, `⌊log₁₀ n⌋ + 1` digits long, written as the decimal text of `n`, worth
`n`, and read back as a 64-bit word whenever `n` is one. A signed integer has an
expansion exactly when it is not negative; a negative one is refused with its own
decimal text.

Raw digit values are taken as they are, leading zeros and the empty list included,
when none is above 9; otherwise the first value above 9 is reported at its index, shown
as the base-36 digit of the value modulo 36, which always exists.
-/

namespace DigitPalindrome

/-! ## Decimal expansions -/

theorem digitsValue_decimalDigits (n : Nat) : digitsValue (decimalDigits n) = n := by
  induction n using Nat.strong_induction_on with
  | _ n inductionHypothesis =>
      by_cases small : n < 10
      · rw [decimalDigits_of_lt small]
        simp
      · rw [decimalDigits_of_ge (by omega), digitsValue_concat,
          inductionHypothesis (n / 10) (by omega)]
        simp only
        omega

theorem isCanonical_decimalDigits (n : Nat) : IsCanonical (decimalDigits n) := by
  have stripped := decimalDigits_digitsValue (decimalDigits n)
  rw [digitsValue_decimalDigits] at stripped
  rw [stripped]
  exact isCanonical_withoutLeadingZeros (decimalDigits n)

theorem decimalDigits_eq_zero_iff {n : Nat} : decimalDigits n = [0] ↔ n = 0 := by
  constructor
  · intro single
    have worth := digitsValue_decimalDigits n
    rw [single] at worth
    simpa using worth.symm
  · rintro rfl
    exact decimalDigits_of_lt (by decide)

/-- The expansion of `n` has `⌊log₁₀ n⌋ + 1` digits; zero has one. -/
theorem length_decimalDigits (n : Nat) : (decimalDigits n).length = Nat.log 10 n + 1 := by
  induction n using Nat.strong_induction_on with
  | _ n inductionHypothesis =>
      by_cases small : n < 10
      · rw [decimalDigits_of_lt small, Nat.log_of_lt small]
        rfl
      · have oneDigitMore : Nat.log 10 n = Nat.log 10 (n / 10) + 1 :=
          Nat.log_of_one_lt_of_le (by decide) (by omega)
        rw [decimalDigits_of_ge (by omega), List.length_append,
          inductionHypothesis (n / 10) (by omega), oneDigitMore]
        rfl

theorem log_lt_twenty_of_word {n : Nat} (fits : n < wordLimit) : Nat.log 10 n < 20 := by
  by_cases zero : n = 0
  · rw [zero, Nat.log_zero_right]
    decide
  · have belowPower : n < 10 ^ 20 := by
      have limitBelow : wordLimit < 10 ^ 20 := by decide
      omega
    exact Nat.log_lt_of_lt_pow zero belowPower

theorem ofNat_length (n : Nat) : (DigitSeq.ofNat n).length = Nat.log 10 n + 1 := by
  rw [DigitSeq.length, DigitSeq.ofNat_digits, length_decimalDigits]

theorem reconstructWord_ofNat {n : Nat} (fits : n < wordLimit) :
    (DigitSeq.ofNat n).reconstructWord 0 ((DigitSeq.ofNat n).length - 1) = .ok n := by
  have nonempty : 0 < (DigitSeq.ofNat n).length := by
    rw [ofNat_length]
    exact Nat.succ_pos _
  have whole : (DigitSeq.ofNat n).window 0 ((DigitSeq.ofNat n).length - 1) = decimalDigits n :=
    (window_whole nonempty).trans (DigitSeq.ofNat_digits n)
  rw [reconstructWord_eq_bind, reconstruct_eq_ok (Nat.zero_le _) (by omega), whole,
    digitsValue_decimalDigits]
  simp only [Except.bind, if_pos fits]

/-! ## Signed integers -/

theorem ofInt_of_nonneg {v : Int} (nonneg : 0 ≤ v) :
    DigitSeq.ofInt v = .ok (DigitSeq.ofNat v.toNat) := by
  cases v with
  | ofNat n =>
      rfl
  | negSucc n =>
      exact absurd nonneg (Int.not_le.mpr (Int.negSucc_lt_zero n))

/-- A negative integer is refused with its decimal text: a minus sign, then the digits
of its magnitude. -/
theorem ofInt_of_neg {v : Int} (negative : v < 0) :
    DigitSeq.ofInt v =
      .error (.invalidInput (.negative ("-" ++ (DigitSeq.ofNat v.natAbs).render))) := by
  cases v with
  | ofNat n =>
      exact absurd negative (Int.not_lt.mpr (Int.natCast_nonneg n))
  | negSucc n =>
      rw [← toString_eq_render_ofNat]
      rfl

/-- The integer builders give decimal expansions. For every 64-bit word `n`, the
expansion is canonical, is `[0]` exactly for zero, has `⌊log₁₀ n⌋ + 1 ≤ 20` digits, is
written as the decimal text of `n`, is worth `n`, and reads back as the word `n`. A
signed integer gives the expansion of its value exactly when it is not negative, and a
negative one, the least 64-bit one included, is refused with its decimal text. -/
theorem integer_builders_give_decimal_expansions :
    (∀ n, n < wordLimit →
      let q := DigitSeq.ofNat n
      IsCanonical q.digits ∧ (q.digits = [0] ↔ n = 0) ∧
        q.length = Nat.log 10 n + 1 ∧ q.length ≤ 20 ∧
        q.render = toString n ∧ q.value = n ∧
        q.reconstructWord 0 (q.length - 1) = .ok n) ∧
    ∀ v : Int,
      (DigitSeq.ofInt v = .ok (DigitSeq.ofNat v.toNat) ↔ 0 ≤ v) ∧
        (v < 0 → DigitSeq.ofInt v =
          .error (.invalidInput (.negative ("-" ++ (DigitSeq.ofNat v.natAbs).render)))) := by
  refine ⟨?_, ?_⟩
  · intro n fits
    have fewDigits := log_lt_twenty_of_word fits
    simp only [DigitSeq.value, DigitSeq.ofNat_digits]
    refine ⟨isCanonical_decimalDigits n, decimalDigits_eq_zero_iff, ofNat_length n, ?_,
      (toString_eq_render_ofNat n).symm, digitsValue_decimalDigits n, reconstructWord_ofNat fits⟩
    rw [ofNat_length]
    omega
  · intro v
    refine ⟨⟨?_, ofInt_of_nonneg⟩, ofInt_of_neg⟩
    intro built
    by_contra negative
    rw [ofInt_of_neg (Int.not_le.mp negative)] at built
    cases built

/-- The largest word, twenty digits long, and the least 64-bit integer. -/
theorem integer_builders_at_extremes :
    wordLimit - 1 < wordLimit ∧
    (let q := DigitSeq.ofNat (wordLimit - 1)
     IsCanonical q.digits ∧ (q.digits = [0] ↔ wordLimit - 1 = 0) ∧
       q.length = Nat.log 10 (wordLimit - 1) + 1 ∧ q.length ≤ 20 ∧
       q.render = toString (wordLimit - 1) ∧ q.value = wordLimit - 1 ∧
       q.reconstructWord 0 (q.length - 1) = .ok (wordLimit - 1)) ∧
    (-9223372036854775808 : Int) < 0 ∧
    DigitSeq.ofInt (-9223372036854775808) =
      .error (.invalidInput (.negative
        ("-" ++ (DigitSeq.ofNat (-9223372036854775808 : Int).natAbs).render))) :=
  ⟨by decide, integer_builders_give_decimal_expansions.1 (wordLimit - 1) (by decide),
    by decide, (integer_builders_give_decimal_expansions.2 (-9223372036854775808)).2 (by decide)⟩

/-! ## Raw digit values -/

/-- The base-36 digits in order: `0` to `9`, then the lowercase letters. -/
def base36Digits : List Char := "0123456789abcdefghijklmnopqrstuvwxyz".toList

theorem radixChar?_base36 (r : Nat) (below : r < 36) :
    Digit.radixChar? 36 r = base36Digits[r]? := by
  have table : ∀ r : Fin 36, Digit.radixChar? 36 r.val = base36Digits[r.val]? := by
    decide
  exact table ⟨r, below⟩

/-- Every value has a base-36 digit modulo 36, so the `?` shown for a value with none
never appears. -/
theorem base36Char_eq (v : Nat) :
    Digit.radixChar? 36 (v % 36) = some (Digit.base36Char v) ∧
      base36Digits[v % 36]? = some (Digit.base36Char v) := by
  have tableLength : base36Digits.length = 36 := by
    decide
  have below : v % 36 < base36Digits.length := by
    rw [tableLength]
    exact Nat.mod_lt v (by decide)
  have listed : base36Digits[v % 36]? = some base36Digits[v % 36] :=
    List.getElem?_eq_getElem below
  have digit : Digit.radixChar? 36 (v % 36) = some base36Digits[v % 36] := by
    rw [radixChar?_base36 _ (tableLength ▸ below), listed]
  have shown : Digit.base36Char v = base36Digits[v % 36] := by
    rw [Digit.base36Char, digit]
    rfl
  rw [shown]
  exact ⟨digit, listed⟩

example :
    (Digit.base36Char 10, Digit.base36Char 35, Digit.base36Char 36, Digit.base36Char 255) =
      ('a', 'z', '0', '3') := by
  decide

theorem firstNonDigit_eq_none_iff (values : List Nat) (position : Nat) :
    DigitSeq.firstNonDigit values position = none ↔ ∀ v ∈ values, v ≤ 9 := by
  induction values generalizing position with
  | nil =>
      simp [DigitSeq.firstNonDigit]
  | cons v rest inductionHypothesis =>
      unfold DigitSeq.firstNonDigit
      by_cases digit : v ≤ 9
      · rw [if_pos digit, inductionHypothesis]
        simp [digit]
      · rw [if_neg digit]
        simp [digit]

theorem firstNonDigit_append {pre : List Nat} (digits : ∀ u ∈ pre, u ≤ 9) (rest : List Nat)
    (position : Nat) :
    DigitSeq.firstNonDigit (pre ++ rest) position =
      DigitSeq.firstNonDigit rest (position + pre.length) := by
  induction pre generalizing position with
  | nil =>
      rfl
  | cons u pre inductionHypothesis =>
      have first : u ≤ 9 := digits u (by simp)
      rw [List.cons_append, DigitSeq.firstNonDigit, if_pos first,
        inductionHypothesis (fun w member => digits w (by simp [member])), List.length_cons]
      congr 1
      omega

theorem map_val_ofNat {values : List Nat} (digits : ∀ v ∈ values, v ≤ 9) :
    (values.map fun v => (Fin.ofNat 10 v : Digit)).map Fin.val = values := by
  rw [List.map_map]
  conv => rhs; rw [← List.map_id' values]
  apply List.map_congr_left
  intro v member
  simp only [Function.comp, Fin.val_ofNat]
  exact Nat.mod_eq_of_lt (Nat.lt_succ_of_le (digits v member))

/-- Raw digit values build a sequence of exactly those digits, leading zeros and the empty
list included, when every value is at most 9. Otherwise the first value above 9 is the
error, at its index, shown as its base-36 digit modulo 36 (`10` as `a`, `35` as `z`, `36`
as `0`, `255` as `3`); that digit always exists. -/
theorem ofValues_reports_first_value_above_nine (values : List Nat) :
    ((∃ q, DigitSeq.ofValues values = .ok q ∧ q.digits.map Fin.val = values) ↔
      ∀ v ∈ values, v ≤ 9) ∧
    ∀ pre v post, values = pre ++ v :: post → (∀ u ∈ pre, u ≤ 9) → 9 < v →
      ∃ c, DigitSeq.ofValues values = .error (.invalidDigit c pre.length) ∧
        Digit.radixChar? 36 (v % 36) = some c ∧ base36Digits[v % 36]? = some c := by
  refine ⟨⟨?_, ?_⟩, ?_⟩
  · rintro ⟨q, built, same⟩
    rw [← firstNonDigit_eq_none_iff values 0]
    cases found : DigitSeq.firstNonDigit values 0 with
    | none =>
        rfl
    | some report =>
        rw [DigitSeq.ofValues, found] at built
        cases built
  · intro digits
    refine ⟨⟨values.map fun v => Fin.ofNat 10 v⟩, ?_, map_val_ofNat digits⟩
    rw [DigitSeq.ofValues, (firstNonDigit_eq_none_iff values 0).mpr digits]
  · rintro pre v post rfl digits above
    have found : DigitSeq.firstNonDigit (pre ++ v :: post) 0 = some (pre.length, v) := by
      rw [firstNonDigit_append digits, DigitSeq.firstNonDigit, if_neg (by omega),
        Nat.zero_add]
    obtain ⟨digit, listed⟩ := base36Char_eq v
    refine ⟨Digit.base36Char v, ?_, digit, listed⟩
    rw [DigitSeq.ofValues, found]

/-- The first value above 9 of `[0, 7, 255, 10]` is `255`, at index 2, shown as `3`. -/
theorem ofValues_reports_255_as_three :
    ∃ c, DigitSeq.ofValues [0, 7, 255, 10] = .error (.invalidDigit c 2) ∧
      Digit.radixChar? 36 (255 % 36) = some c ∧ base36Digits[255 % 36]? = some c :=
  (ofValues_reports_first_value_above_nine [0, 7, 255, 10]).2 [0, 7] 255 [10] rfl
    (by decide) (by decide)

end DigitPalindrome
