import DigitPalindrome.Proofs.Literal

/-!
# Writing, reading and valuing a sequence

A sequence is written as its digits one after another. Reading that text back
gives the sequence without its leading zeros (`[0]` when every digit is zero), the
empty text being no integer at all. Leading zeros change neither the value nor the
decimal text of the value, which is the written form of the stripped sequence; so
reading a written sequence gives it back exactly when it is canonical.
-/

namespace DigitPalindrome

/-! ## The written form -/

theorem Digit.isWhiteSpace_toChar (d : Digit) : isWhiteSpace d.toChar = false := by
  revert d
  decide

theorem Digit.toChar_ne_sign (d : Digit) : d.toChar ≠ '-' ∧ d.toChar ≠ '+' := by
  revert d
  decide

/-- Text without white space is its own trimming. -/
theorem trimWhiteSpace_of_forall {cs : List Char} (noSpace : ∀ c ∈ cs, isWhiteSpace c = false) :
    trimWhiteSpace cs = cs := by
  -- neither end has white space to drop, read forwards or backwards
  have untrimmed : ∀ ds : List Char, (∀ c ∈ ds, isWhiteSpace c = false) →
      ds.dropWhile isWhiteSpace = ds := fun ds noneSpace =>
    List.dropWhile_eq_self_iff.mpr fun nonempty =>
      Bool.eq_false_iff.mp (noneSpace _ (List.getElem_mem nonempty))
  have reversedNoSpace : ∀ c ∈ cs.reverse, isWhiteSpace c = false := by
    intro c member
    exact noSpace c (List.mem_reverse.mp member)
  rw [trimWhiteSpace, untrimmed cs noSpace, untrimmed cs.reverse reversedNoSpace,
    List.reverse_reverse]

theorem toList_render (q : DigitSeq) : q.render.toList = q.digits.map Digit.toChar := by
  rw [DigitSeq.render, String.toList_ofList]

theorem trimWhiteSpace_render (q : DigitSeq) :
    trimWhiteSpace q.render.toList = q.digits.map Digit.toChar := by
  rw [toList_render]
  apply trimWhiteSpace_of_forall
  intro c member
  obtain ⟨d, -, rfl⟩ := List.mem_map.mp member
  exact Digit.isWhiteSpace_toChar d

/-- Written digits have no sign: the whole text is the body. -/
theorem literalSign_map_toChar (ds : List Digit) : literalSign (ds.map Digit.toChar) = [] := by
  cases ds with
  | nil =>
      rfl
  | cons d rest =>
      obtain ⟨notMinus, notPlus⟩ := Digit.toChar_ne_sign d
      simp [literalSign, notMinus, notPlus]

theorem literalBody_map_toChar (ds : List Digit) :
    literalBody (ds.map Digit.toChar) = ds.map Digit.toChar := by
  rw [literalBody, literalSign_map_toChar]
  rfl

/-! ## Reading the written form back -/

theorem parse_render_of_digits_eq_nil {q : DigitSeq} (empty : q.digits = []) :
    DigitSeq.parse q.render = .error (.invalidInput (.notAnInteger "")) := by
  have noBody : literalBody (q.digits.map Digit.toChar) = [] := by
    rw [literalBody_map_toChar, empty]
    rfl
  rw [parse_of_literalBody_eq_nil (trimWhiteSpace_render q) noBody, empty]
  rfl

/-- Reading a written sequence gives it back without its leading zeros. -/
theorem parse_render {q : DigitSeq} (nonempty : q.digits ≠ []) :
    DigitSeq.parse q.render = .ok ⟨withoutLeadingZeros q.digits⟩ := by
  have trimmed := trimWhiteSpace_render q
  have body := literalBody_map_toChar q.digits
  have bodyNonempty : literalBody (q.digits.map Digit.toChar) ≠ [] := by
    rw [body]
    simpa using nonempty
  have allDigits : ∀ c ∈ literalBody (q.digits.map Digit.toChar), c.isDigit = true := by
    rw [body]
    intro c member
    obtain ⟨d, -, rfl⟩ := List.mem_map.mp member
    exact Digit.isDigit_toChar d
  have accepted :
      ¬ (literalSign (q.digits.map Digit.toChar) = ['-'] ∧
        ∃ c ∈ literalBody (q.digits.map Digit.toChar), c ≠ '0') := by
    rw [literalSign_map_toChar]
    simp
  obtain ⟨read, readValue, -, readChars⟩ :=
    parse_of_accepted trimmed bodyNonempty allDigits accepted
  rw [body, ← map_toChar_withoutLeadingZeros] at readChars
  have sameDigits : read.digits = withoutLeadingZeros q.digits :=
    List.map_injective_iff.mpr Digit.toChar_injective readChars
  rw [readValue, ← sameDigits]

/-- Reading a written sequence gives it back exactly when it is canonical. -/
theorem parse_render_eq_ok_iff (q : DigitSeq) :
    DigitSeq.parse q.render = .ok q ↔ IsCanonical q.digits := by
  constructor
  · intro readBack
    by_cases empty : q.digits = []
    · rw [parse_render_of_digits_eq_nil empty] at readBack
      cases readBack
    · rw [parse_render empty] at readBack
      have unchanged : withoutLeadingZeros q.digits = q.digits :=
        congrArg DigitSeq.digits (Except.ok.inj readBack)
      rw [← unchanged]
      exact isCanonical_withoutLeadingZeros q.digits
  · intro canonical
    rw [parse_render canonical.1, withoutLeadingZeros_of_isCanonical canonical]

/-! ## Writing, reading and valuing agree -/

/-- The decimal text of a sequence's value is the sequence written out without its
leading zeros. -/
theorem toString_value (q : DigitSeq) :
    toString q.value = (⟨withoutLeadingZeros q.digits⟩ : DigitSeq).render := by
  rw [toString_eq_render_ofNat]
  unfold DigitSeq.render
  rw [DigitSeq.ofNat_digits, DigitSeq.value, decimalDigits_digitsValue]

/-- The three views of a sequence agree. The empty sequence is written as the empty
text, which reads as no integer, and has value zero; any other sequence reads back
from its written form as itself without leading zeros (`[0]` when all digits are
zero). That stripped sequence has the same value; the value is the positional sum
of the digits; its decimal text is the stripped sequence written out; and reading a
written sequence gives it back exactly when it is canonical. -/
theorem render_parse_value_agree (q : DigitSeq) :
    let stripped : DigitSeq :=
      ⟨if q.digits.all (fun d => d.val == 0) then [0]
        else q.digits.dropWhile (fun d => d.val == 0)⟩
    (if q.isEmpty then
        q.render = "" ∧ DigitSeq.parse q.render = .error (.invalidInput (.notAnInteger "")) ∧
          q.value = 0
      else DigitSeq.parse q.render = .ok stripped) ∧
    stripped.value = q.value ∧
    q.value = ∑ i ∈ Finset.range q.length, (q.digits.getD i 0).val * 10 ^ (q.length - 1 - i) ∧
    toString q.value = stripped.render ∧
    (DigitSeq.parse q.render = .ok q ↔ IsCanonical q.digits) := by
  intro stripped
  have strippedEq : stripped = ⟨withoutLeadingZeros q.digits⟩ := by
    simp only [stripped, withoutLeadingZeros_eq]
  rw [strippedEq]
  refine ⟨?_, digitsValue_withoutLeadingZeros q.digits, digitsValue_eq_positionalValue q.digits,
    toString_value q, parse_render_eq_ok_iff q⟩
  by_cases empty : q.digits = []
  · have noDigits : q.isEmpty = true := by
      rw [DigitSeq.isEmpty, empty]
      rfl
    rw [if_pos noDigits]
    refine ⟨?_, parse_render_of_digits_eq_nil empty, ?_⟩
    · rw [DigitSeq.render, empty]
      rfl
    · rw [DigitSeq.value, empty]
      rfl
  · have someDigits : ¬ q.isEmpty = true := by
      rw [DigitSeq.isEmpty, List.isEmpty_iff]
      exact empty
    rw [if_neg someDigits]
    exact parse_render empty

end DigitPalindrome
