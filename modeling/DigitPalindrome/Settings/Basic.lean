import DigitPalindrome.Json.Tree

/-!
# Settings

The settings choose the output format used when a command does not name one,
and whether plain-text reports show the digit list and the span. Every field has
a default: plain text, digits shown, span shown.
-/

namespace DigitPalindrome

/-- How a report is written. -/
inductive OutputFormat where
  /-- Human-readable plain text. -/
  | plain
  /-- JSON structured output. -/
  | json
  /-- CSV format for data analysis. -/
  | csv
  deriving DecidableEq, Repr

namespace OutputFormat

/-- Every format, in declaration order. -/
def all : List OutputFormat := [plain, json, csv]

/-- The lowercase name of a format. -/
def name : OutputFormat → String
  | plain => "plain"
  | json => "json"
  | csv => "csv"

/-- The format with the given name (names are case-sensitive). -/
def ofName? (s : String) : Option OutputFormat :=
  all.find? fun f => f.name == s

end OutputFormat

/-- The settings of the tool. -/
structure Settings where
  /-- The format used when a command does not name one. -/
  defaultFormat : OutputFormat := .plain
  /-- Whether plain-text reports list the digits. -/
  showDigits : Bool := true
  /-- Whether plain-text reports show the best run's span. -/
  showSpan : Bool := true
  deriving DecidableEq, Repr

namespace Settings

/-- The settings used when no settings file exists. -/
def defaults : Settings := {}

/-- The JSON form of the settings, fields in declaration order. -/
def toJson (s : Settings) : JsonTree :=
  .object [("default_output_format", .text s.defaultFormat.name),
    ("show_digits", .bool s.showDigits), ("show_span", .bool s.showSpan)]

end Settings

end DigitPalindrome
