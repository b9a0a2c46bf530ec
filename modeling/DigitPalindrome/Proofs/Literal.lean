import DigitPalindrome.Literal
import DigitPalindrome.Proofs.Positional

/-!
# Reading literals

The outcome of reading a literal, stated on its characters. The text is trimmed
of white space; a first `-` or `+` is its sign and the rest its body. The body
must not be empty; then every body character must be an ASCII digit, and the
first that is not is reported at its character position in the trimmed text,
sign included; only then is a minus sign on a value other than zero refused.
A successful reading is the body without its leading zeros, so it is canonical.

The main statement, `literalOutcome_iff_eq_parse`, says that reading a text gives
exactly the one result that this description allows.
-/

namespace DigitPalindrome

/-! ## Digits and their characters -/

namespace Digit

theorem ofChar?_eq_none_iff {c : Char} : ofChar? c = none ↔ c.isDigit = false := by
  have digitRange := @Char.isDigit_iff_toNat c
  unfold ofChar?
  split
  · next inRange =>
      simp only [reduceCtorEq, false_iff, Bool.not_eq_false]
      exact digitRange.mpr (by simp; omega)
  · next outside =>
      simp only [true_iff]
      cases digit : c.isDigit
      · rfl
      · have bounds := digitRange.mp digit
        simp at bounds
        omega

theorem ofChar?_of_isDigit {c : Char} (digit : c.isDigit = true) :
    ∃ d, ofChar? c = some d := by
  cases read : ofChar? c with
  | none =>
      rw [ofChar?_eq_none_iff, digit] at read
      contradiction
  | some d =>
      exact ⟨d, rfl⟩

theorem toChar_of_ofChar? {c : Char} {d : Digit} (read : ofChar? c = some d) :
    d.toChar = c := by
  unfold ofChar? at read
  split at read
  · next inRange =>
      cases read
      simp only [toChar]
      rw [show 48 + (c.toNat - 48) = c.toNat by omega, Char.ofNat_toNat]
  · cases read

theorem isDigit_toChar (d : Digit) : d.toChar.isDigit = true := by
  revert d
  decide

theorem toChar_injective : Function.Injective toChar := by
  intro first second sameChar
  revert first second
  decide

theorem toChar_eq_zero_iff {d : Digit} : d.toChar = '0' ↔ d = 0 := by
  revert d
  decide

theorem toChar_beq_zero (d : Digit) : (d.toChar == '0') = (d.val == 0) := by
  revert d
  decide

end Digit

/-! ## Reading the body -/

/-- A body of ASCII digits reads as the digits it writes. -/
theorem readDigits_of_forall_isDigit {cs : List Char}
    (allDigits : ∀ c ∈ cs, c.isDigit = true) (position : Nat) :
    ∃ ds, readDigits cs position = .ok ds ∧ ds.map Digit.toChar = cs := by
  induction cs generalizing position with
  | nil =>
      exact ⟨[], rfl, rfl⟩
  | cons c rest inductionHypothesis =>
      have headDigit : c.isDigit = true := allDigits c (by simp)
      obtain ⟨d, read⟩ := Digit.ofChar?_of_isDigit headDigit
      obtain ⟨ds, restRead, restChars⟩ :=
        inductionHypothesis (fun x member => allDigits x (by simp [member])) (position + 1)
      refine ⟨d :: ds, ?_, ?_⟩
      · simp only [readDigits, read, restRead]
      · rw [List.map_cons, Digit.toChar_of_ofChar? read, restChars]

/-- Reading stops at the first character that is not an ASCII digit and reports it
at its position. -/
theorem readDigits_append_of_not_isDigit {pre post : List Char} {c : Char}
    (allDigits : ∀ x ∈ pre, x.isDigit = true) (notDigit : c.isDigit = false)
    (position : Nat) :
    readDigits (pre ++ c :: post) position =
      .error (.invalidDigit c (position + pre.length)) := by
  induction pre generalizing position with
  | nil =>
      have rejected : Digit.ofChar? c = none := Digit.ofChar?_eq_none_iff.mpr notDigit
      simp only [List.nil_append, readDigits, rejected, List.length_nil, Nat.add_zero]
  | cons x rest inductionHypothesis =>
      have headDigit : x.isDigit = true := allDigits x (by simp)
      obtain ⟨d, read⟩ := Digit.ofChar?_of_isDigit headDigit
      have restRead :=
        inductionHypothesis (fun y member => allDigits y (by simp [member])) (position + 1)
      have shifted : position + 1 + rest.length = position + (rest.length + 1) := by omega
      simp only [List.cons_append, readDigits, read, restRead, List.length_cons, shifted]

/-! ## Leading zeros, on characters -/

/-- The characters of a body of digits without its leading zeros, or `0` when every
character is a zero. -/
def withoutLeadingZeroChars (body : List Char) : List Char :=
  if body.all (· == '0') then ['0'] else body.dropWhile (· == '0')

theorem withoutLeadingZeros_eq_zero_iff {ds : List Digit} :
    withoutLeadingZeros ds = [0] ↔ ∀ d ∈ ds, d = 0 := by
  rw [withoutLeadingZeros_eq]
  split
  · next allZero =>
      exact iff_of_true rfl (all_val_beq_zero_iff.mp allZero)
  · next someNonzero =>
      refine iff_of_false (fun stripped => ?_) (mt all_val_beq_zero_iff.mpr someNonzero)
      apply head?_dropWhile_zero_ne ds
      rw [stripped]
      rfl

theorem all_map_toChar_beq_zero (ds : List Digit) :
    (ds.map Digit.toChar).all (· == '0') = ds.all (fun d => d.val == 0) := by
  rw [List.all_map]
  exact congrArg ds.all (funext Digit.toChar_beq_zero)

/-- Dropping leading zeros commutes with writing the digits out. -/
theorem map_toChar_withoutLeadingZeros (ds : List Digit) :
    (withoutLeadingZeros ds).map Digit.toChar = withoutLeadingZeroChars (ds.map Digit.toChar) := by
  have samePredicate : ((· == '0') ∘ Digit.toChar) = fun d : Digit => d.val == 0 :=
    funext Digit.toChar_beq_zero
  rw [withoutLeadingZeros_eq, withoutLeadingZeroChars, all_map_toChar_beq_zero]
  split
  · rfl
  · rw [List.dropWhile_map, samePredicate]

/-! ## Sign and body -/

/-- The sign of a trimmed literal: its first character when that is `-` or `+`. -/
def literalSign (t : List Char) : List Char :=
  (t.head?.filter fun c => c == '-' || c == '+').toList

/-- The body of a trimmed literal: what follows its sign. -/
def literalBody (t : List Char) : List Char :=
  t.drop (literalSign t).length

/-- Splitting off the sign gives whether it is a minus, the body, and the position
of the body in the trimmed text. -/
theorem splitSign_eq (t : List Char) :
    splitSign t = (decide (literalSign t = ['-']), literalBody t, (literalSign t).length) := by
  cases t with
  | nil =>
      rfl
  | cons c body =>
      by_cases minus : c = '-'
      · subst minus
        rfl
      · by_cases plus : c = '+'
        · subst plus
          rfl
        · have unsigned : literalSign (c :: body) = [] := by
            simp [literalSign, minus, plus]
          rw [unsigned]
          unfold splitSign
          split
          · next same =>
              cases same
              contradiction
          · next same =>
              cases same
              contradiction
          · simp [literalBody, unsigned]

/-! ## The four outcomes -/

section Outcomes

variable {text : String} {t : List Char}

/-- A literal with nothing after its sign is not an integer. -/
theorem parse_of_literalBody_eq_nil (trimmed : trimWhiteSpace text.toList = t)
    (empty : literalBody t = []) :
    DigitSeq.parse text = .error (.invalidInput (.notAnInteger (String.ofList t))) := by
  simp only [DigitSeq.parse, splitSign_eq, trimmed, empty, List.isEmpty_nil, if_true]

/-- The first character of the body that is not an ASCII digit is reported at its
position in the trimmed text. -/
theorem parse_of_first_non_digit {pre post : List Char} {found : Char}
    (trimmed : trimWhiteSpace text.toList = t) (body : literalBody t = pre ++ found :: post)
    (allDigits : ∀ c ∈ pre, c.isDigit = true) (notDigit : found.isDigit = false) :
    DigitSeq.parse text =
      .error (.invalidDigit found ((literalSign t).length + pre.length)) := by
  have nonempty : (literalBody t).isEmpty = false := by
    simp [body]
  simp only [DigitSeq.parse, splitSign_eq, trimmed, nonempty, Bool.false_eq_true, if_false]
  rw [body, readDigits_append_of_not_isDigit allDigits notDigit]

/-- Once the body reads as digits, only the sign and the stripped digits decide. -/
theorem parse_of_readDigits {ds : List Digit} (trimmed : trimWhiteSpace text.toList = t)
    (nonempty : literalBody t ≠ [])
    (read : readDigits (literalBody t) (literalSign t).length = .ok ds) :
    DigitSeq.parse text =
      if (decide (literalSign t = ['-']) && withoutLeadingZeros ds != [0]) = true then
        .error (.invalidInput (.negative (String.ofList t)))
      else .ok ⟨withoutLeadingZeros ds⟩ := by
  have notEmpty : (literalBody t).isEmpty = false := by
    cases body : literalBody t with
    | nil => exact absurd body nonempty
    | cons c rest => rfl
  simp only [DigitSeq.parse, splitSign_eq, trimmed, notEmpty, Bool.false_eq_true, if_false, read]

/-- A body of digits reads as its digits; the only question left is the sign. -/
theorem parse_of_forall_isDigit (trimmed : trimWhiteSpace text.toList = t)
    (nonempty : literalBody t ≠ []) (allDigits : ∀ c ∈ literalBody t, c.isDigit = true) :
    ∃ ds, ds.map Digit.toChar = literalBody t ∧
      ((literalSign t = ['-'] ∧ ∃ c ∈ literalBody t, c ≠ '0') →
        DigitSeq.parse text = .error (.invalidInput (.negative (String.ofList t)))) ∧
      (¬ (literalSign t = ['-'] ∧ ∃ c ∈ literalBody t, c ≠ '0') →
        DigitSeq.parse text = .ok ⟨withoutLeadingZeros ds⟩) := by
  obtain ⟨ds, read, chars⟩ := readDigits_of_forall_isDigit allDigits (literalSign t).length
  -- the stripped digits are `[0]` exactly when every character of the body is a zero
  have refused :
      (decide (literalSign t = ['-']) && withoutLeadingZeros ds != [0]) = true ↔
        literalSign t = ['-'] ∧ ∃ c ∈ literalBody t, c ≠ '0' := by
    rw [← chars]
    simp [withoutLeadingZeros_eq_zero_iff, Digit.toChar_eq_zero_iff]
  refine ⟨ds, chars, ?_, ?_⟩
  · intro minusOnNonzero
    rw [parse_of_readDigits trimmed nonempty read, if_pos (refused.mpr minusOnNonzero)]
  · intro accepted
    rw [parse_of_readDigits trimmed nonempty read, if_neg (mt refused.mp accepted)]

/-- A minus sign on a body of digits that is not all zeros is refused. -/
theorem parse_of_negative (trimmed : trimWhiteSpace text.toList = t)
    (nonempty : literalBody t ≠ []) (allDigits : ∀ c ∈ literalBody t, c.isDigit = true)
    (minus : literalSign t = ['-']) (nonzero : ∃ c ∈ literalBody t, c ≠ '0') :
    DigitSeq.parse text = .error (.invalidInput (.negative (String.ofList t))) := by
  obtain ⟨ds, -, refused, -⟩ := parse_of_forall_isDigit trimmed nonempty allDigits
  exact refused ⟨minus, nonzero⟩

/-- Any other body of digits reads as its digits without leading zeros. -/
theorem parse_of_accepted (trimmed : trimWhiteSpace text.toList = t)
    (nonempty : literalBody t ≠ []) (allDigits : ∀ c ∈ literalBody t, c.isDigit = true)
    (accepted : ¬ (literalSign t = ['-'] ∧ ∃ c ∈ literalBody t, c ≠ '0')) :
    ∃ q, DigitSeq.parse text = .ok q ∧ IsCanonical q.digits ∧
      q.digits.map Digit.toChar = withoutLeadingZeroChars (literalBody t) := by
  obtain ⟨ds, chars, -, read⟩ := parse_of_forall_isDigit trimmed nonempty allDigits
  refine ⟨⟨withoutLeadingZeros ds⟩, read accepted, ?_, ?_⟩
  · exact isCanonical_withoutLeadingZeros ds
  · rw [map_toChar_withoutLeadingZeros, chars]

end Outcomes

/-! ## Reading, exactly -/

/-- What reading `text` may give, as its trimmed characters `t` decide it: nothing
after the sign; a first body character that is not an ASCII digit, at its position
in `t`; a minus sign on digits that are not all zeros; or the body's digits without
their leading zeros. No range or overflow error can come out of reading. -/
def LiteralOutcome (text : String) (result : Except AnalysisError DigitSeq) : Prop :=
  let t := trimWhiteSpace text.toList
  match result with
  | .error (.invalidInput (.notAnInteger shown)) =>
      literalBody t = [] ∧ shown = String.ofList t
  | .error (.invalidDigit found position) =>
      ∃ pre post, literalBody t = pre ++ found :: post ∧ (∀ c ∈ pre, c.isDigit = true) ∧
        found.isDigit = false ∧ position = (literalSign t).length + pre.length
  | .error (.invalidInput (.negative shown)) =>
      literalBody t ≠ [] ∧ (∀ c ∈ literalBody t, c.isDigit = true) ∧
        literalSign t = ['-'] ∧ (∃ c ∈ literalBody t, c ≠ '0') ∧ shown = String.ofList t
  | .ok q =>
      literalBody t ≠ [] ∧ (∀ c ∈ literalBody t, c.isDigit = true) ∧
        ¬ (literalSign t = ['-'] ∧ ∃ c ∈ literalBody t, c ≠ '0') ∧
        IsCanonical q.digits ∧ q.digits.map Digit.toChar = withoutLeadingZeroChars (literalBody t)
  | .error (.invalidRange _ _ _) => False
  | .error (.overflow _) => False

theorem literalOutcome_parse (text : String) : LiteralOutcome text (DigitSeq.parse text) := by
  unfold LiteralOutcome
  generalize trimmed : trimWhiteSpace text.toList = t
  by_cases empty : literalBody t = []
  · rw [parse_of_literalBody_eq_nil trimmed empty]
    exact ⟨empty, rfl⟩
  · -- split the body at its first character that is not a digit, if there is one
    cases rest : (literalBody t).dropWhile Char.isDigit with
    | cons found post =>
        have split : literalBody t = (literalBody t).takeWhile Char.isDigit ++ found :: post := by
          rw [← rest, List.takeWhile_append_dropWhile]
        have allDigits : ∀ c ∈ (literalBody t).takeWhile Char.isDigit, c.isDigit = true :=
          fun _ member => List.mem_takeWhile_imp member
        have notDigit : found.isDigit = false := by
          have stopped := List.head?_dropWhile_not Char.isDigit (literalBody t)
          rw [rest] at stopped
          exact stopped
        rw [parse_of_first_non_digit trimmed split allDigits notDigit]
        exact ⟨_, post, split, allDigits, notDigit, rfl⟩
    | nil =>
        have allDigits : ∀ c ∈ literalBody t, c.isDigit = true :=
          List.dropWhile_eq_nil_iff.mp rest
        by_cases minusOnNonzero : literalSign t = ['-'] ∧ ∃ c ∈ literalBody t, c ≠ '0'
        · rw [parse_of_negative trimmed empty allDigits minusOnNonzero.1 minusOnNonzero.2]
          exact ⟨empty, allDigits, minusOnNonzero.1, minusOnNonzero.2, rfl⟩
        · obtain ⟨q, read, canonical, chars⟩ :=
            parse_of_accepted trimmed empty allDigits minusOnNonzero
          rw [read]
          exact ⟨empty, allDigits, minusOnNonzero, canonical, chars⟩

theorem eq_parse_of_literalOutcome {text : String} {result : Except AnalysisError DigitSeq}
    (outcome : LiteralOutcome text result) : result = DigitSeq.parse text := by
  unfold LiteralOutcome at outcome
  generalize trimmed : trimWhiteSpace text.toList = t at outcome
  rcases result with ((shown | shown) | ⟨found, position⟩ | ⟨_, _, _⟩ | _) | q
  · obtain ⟨empty, rfl⟩ := outcome
    rw [parse_of_literalBody_eq_nil trimmed empty]
  · obtain ⟨nonempty, allDigits, minus, nonzero, rfl⟩ := outcome
    rw [parse_of_negative trimmed nonempty allDigits minus nonzero]
  · obtain ⟨pre, post, split, allDigits, notDigit, rfl⟩ := outcome
    rw [parse_of_first_non_digit trimmed split allDigits notDigit]
  · exact outcome.elim
  · exact outcome.elim
  · obtain ⟨nonempty, allDigits, accepted, -, chars⟩ := outcome
    obtain ⟨read, readValue, -, readChars⟩ := parse_of_accepted trimmed nonempty allDigits accepted
    -- two sequences that write the same characters are equal
    have sameDigits : q.digits = read.digits :=
      List.map_injective_iff.mpr Digit.toChar_injective (chars.trans readChars.symm)
    rw [readValue]
    cases q
    cases read
    cases sameDigits
    rfl

/-- Reading a text gives exactly the one result its characters allow: the results
that fit the description `LiteralOutcome` are the result of `DigitSeq.parse`. -/
theorem literalOutcome_iff_eq_parse (text : String) (result : Except AnalysisError DigitSeq) :
    LiteralOutcome text result ↔ result = DigitSeq.parse text := by
  constructor
  · exact eq_parse_of_literalOutcome
  · rintro rfl
    exact literalOutcome_parse text

example : DigitSeq.parse "-abc" = .error (.invalidDigit 'a' 1) := by decide

example : DigitSeq.parse " -00 " = .ok ⟨[0]⟩ := by decide

end DigitPalindrome
