import DigitPalindrome.Report
import DigitPalindrome.Settings.Basic

/-!
# Writing reports

A report is written in one of three formats. Plain text gives one labelled line
per field, the label padded to twelve columns; the settings decide whether the
digit list and the span are shown. CSV gives a header line and one record.
JSON gives the indented JSON form. Each ends with a newline.
-/

namespace DigitPalindrome

/-- A plain-text line: two spaces, the label padded to twelve columns, a space and
the value. -/
def plainLine (label value : String) : String :=
  "  " ++ label ++ String.ofList (List.replicate (12 - label.length) ' ') ++ " " ++ value ++ "\n"

/-- A CSV line of fields that need no quoting. -/
def csvLine (fields : List String) : String := ",".intercalate fields ++ "\n"

namespace CheckReport

/-- The plain-text form of a check report. -/
def plain (r : CheckReport) (s : Settings) : String :=
  plainLine "Input:" r.input ++
    (if s.showDigits then plainLine "Digits:" r.digits.listText else "") ++
    plainLine "Palindrome:" (if r.isPalindrome then "true" else "false")

/-- The CSV form of a check report. -/
def csv (r : CheckReport) : String :=
  csvLine ["input", "length", "is_palindrome"] ++
    csvLine [r.input, toString r.length, if r.isPalindrome then "true" else "false"]

/-- A check report in a format. -/
def write (r : CheckReport) (format : OutputFormat) (s : Settings) : String :=
  match format with
  | .plain => r.plain s
  | .json => r.toJson.render ++ "\n"
  | .csv => r.csv

end CheckReport

namespace LongestReport

/-- The span line of a longest report, when it has a best run. -/
def spanLine (r : LongestReport) : String :=
  match r.start, r.last, r.center with
  | some start, some last, some center =>
    plainLine "Span:" (toString start ++ "..=" ++ toString last ++ " (center: " ++ center.describe ++ ")")
  | _, _, _ => ""

/-- The plain-text form of a longest report. -/
def plain (r : LongestReport) (s : Settings) : String :=
  plainLine "Input:" r.input ++
    (if s.showDigits then plainLine "Digits:" r.digits.listText else "") ++
    plainLine "Length:" (toString r.bestLength) ++
    plainLine "Value:" r.valueText ++
    (if s.showSpan then r.spanLine else "")

/-- The CSV form of a longest report; absent fields are empty. -/
def csv (r : LongestReport) : String :=
  let text (v : Option Nat) : String := (v.map toString).getD ""
  csvLine ["input", "best_length", "best_value", "start", "end"] ++
    csvLine [r.input, toString r.bestLength, text r.bestValue, text r.start, text r.last]

/-- A longest report in a format. -/
def write (r : LongestReport) (format : OutputFormat) (s : Settings) : String :=
  match format with
  | .plain => r.plain s
  | .json => r.toJson.render ++ "\n"
  | .csv => r.csv

end LongestReport

end DigitPalindrome
