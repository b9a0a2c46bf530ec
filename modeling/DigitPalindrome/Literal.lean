import DigitPalindrome.Digits
import DigitPalindrome.Error
import DigitPalindrome.Whitespace

/-!
# Building digit sequences

A digit sequence comes from a literal (text), from raw digit values, or from an
integer. Reading a literal trims white space, removes one sign, checks every
character in order, drops redundant leading zeros, and only then rejects a
negative value, so a bad character is reported before a bad sign.
-/

namespace DigitPalindrome

/-- The digits of `body`, whose first character stands at position `offset` of the
trimmed text; the first character that is not an ASCII digit is the error. -/
def readDigits : List Char → Nat → Except AnalysisError (List Digit)
  | [], _ => .ok []
  | c :: rest, position =>
    match Digit.ofChar? c with
    | none => .error (.invalidDigit c position)
    | some d =>
      match readDigits rest (position + 1) with
      | .error e => .error e
      | .ok ds => .ok (d :: ds)

/-- The sign of a trimmed literal and the characters after it: whether it was `-`,
the body, and the position of the body's first character. -/
def splitSign : List Char → Bool × List Char × Nat
  | '-' :: body => (true, body, 1)
  | '+' :: body => (false, body, 1)
  | cs => (false, cs, 0)

namespace DigitSeq

/-- Read a literal: trim white space, remove one leading `-` or `+`, require a
non-empty body of ASCII digits, drop leading zeros, and reject a `-` unless the
value is zero. -/
def parse (text : String) : Except AnalysisError DigitSeq :=
  let trimmed := trimWhiteSpace text.toList
  let (negative, body, offset) := splitSign trimmed
  if body.isEmpty then
    .error (.invalidInput (.notAnInteger (String.ofList trimmed)))
  else
    match readDigits body offset with
    | .error e => .error e
    | .ok ds =>
      let canonical := withoutLeadingZeros ds
      if negative && canonical != [0] then
        .error (.invalidInput (.negative (String.ofList trimmed)))
      else
        .ok ⟨canonical⟩

/-- The position and value of the first raw value above 9. -/
def firstNonDigit : List Nat → Nat → Option (Nat × Nat)
  | [], _ => none
  | v :: rest, position => if v ≤ 9 then firstNonDigit rest (position + 1) else some (position, v)

/-- Build a sequence from raw digit values, keeping leading zeros and allowing the
empty list. The first value above 9 is reported at its index, shown as the
base-36 character of the value modulo 36. -/
def ofValues (values : List Nat) : Except AnalysisError DigitSeq :=
  match firstNonDigit values 0 with
  | some (position, v) => .error (.invalidDigit (Digit.base36Char v) position)
  | none => .ok ⟨values.map fun v => Fin.ofNat 10 v⟩

/-- The decimal expansion of a signed integer; a negative one is rejected. -/
def ofInt (v : Int) : Except AnalysisError DigitSeq :=
  match v with
  | .ofNat n => .ok (ofNat n)
  | .negSucc _ => .error (.invalidInput (.negative (toString v)))

end DigitSeq

end DigitPalindrome
