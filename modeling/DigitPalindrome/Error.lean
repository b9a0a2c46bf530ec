/-!
# Analysis errors

The failures of building and analysing a digit sequence, with the text each one
shows.
-/

namespace DigitPalindrome

/-- Why a text or a signed number is not a non-negative integer. -/
inductive InputProblem where
  /-- The trimmed text has no digits after its sign. -/
  | notAnInteger (trimmed : String)
  /-- The value is below zero; the text is how it was written. -/
  | negative (text : String)
  deriving DecidableEq, Repr

/-- The failures of building or analysing a digit sequence. -/
inductive AnalysisError where
  /-- The input is not a non-negative integer. -/
  | invalidInput (problem : InputProblem)
  /-- A character that is not a decimal digit, at a character position. -/
  | invalidDigit (found : Char) (position : Nat)
  /-- An inclusive digit range that is reversed or reaches past the end. -/
  | invalidRange (start last length : Nat)
  /-- A value of `digits` digits does not fit in a 64-bit word. -/
  | overflow (digits : Nat)
  deriving DecidableEq, Repr

namespace InputProblem

/-- The explanation shown after `invalid input: `. -/
def describe : InputProblem → String
  | notAnInteger trimmed => "'" ++ trimmed ++ "' is not an integer"
  | negative text => "negative value " ++ text

end InputProblem

namespace AnalysisError

/-- The name of the error's kind. -/
def kindName : AnalysisError → String
  | invalidInput _ => "InvalidInput"
  | invalidDigit _ _ => "InvalidDigit"
  | invalidRange _ _ _ => "InvalidRange"
  | overflow _ => "ArithmeticOverflow"

/-- The text the error shows. -/
def message : AnalysisError → String
  | invalidInput problem => "invalid input: " ++ problem.describe
  | invalidDigit found position =>
      "invalid digit '" ++ found.toString ++ "' at position " ++ toString position
  | invalidRange start last length =>
      "digit range " ++ toString start ++ "..=" ++ toString last ++
        " is out of bounds for a sequence of length " ++ toString length
  | overflow digits =>
      "a " ++ toString digits ++ "-digit value does not fit in the target integer width"

end AnalysisError

end DigitPalindrome
