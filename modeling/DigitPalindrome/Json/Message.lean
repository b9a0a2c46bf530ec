import DigitPalindrome.Json.Reader
import DigitPalindrome.Unicode.Printable

/-!
# Texts of reading problems

A reading problem is shown as a sentence followed by ` at line L column C`. A
string found where another type was expected is shown quoted, with quotes,
backslashes and characters that do not print escaped.
-/

namespace DigitPalindrome

/-- Lowercase hexadecimal digits of a natural number, without leading zeros. -/
def hexText (n : Nat) : String :=
  String.ofList ((Nat.toDigits 16 n))

/-- Whether a character is written as an escape inside a quoted string: a
grapheme extender (which would join the character before it) or a character that
is not printable. -/
def escapedInQuote (c : Char) : Bool := isGraphemeExtend c || !isPrintable c

/-- A character as it appears inside a quoted string. -/
def quotedChar (c : Char) : String :=
  match c with
  | '\x00' => "\\0"
  | '\t' => "\\t"
  | '\r' => "\\r"
  | '\n' => "\\n"
  | '\\' => "\\\\"
  | '"' => "\\\""
  | c => if escapedInQuote c then "\\u\x7b" ++ hexText c.toNat ++ "\x7d" else c.toString

/-- A string in double quotes with its special characters escaped. -/
def quoted (s : String) : String :=
  "\"" ++ String.join (s.toList.map quotedChar) ++ "\""

/-- The names `a`, `a` or `b`, or one of `a`, `b`, `c`, each in backticks. -/
def oneOf (names : List String) : String :=
  let tick (s : String) : String := "`" ++ s ++ "`"
  match names with
  | [] => "nothing"
  | [a] => tick a
  | [a, b] => tick a ++ " or " ++ tick b
  | _ => "one of " ++ ", ".intercalate (names.map tick)

namespace Unexpected

/-- How a value of the wrong type is named. -/
def describe : Unexpected → String
  | bool b => "boolean `" ++ (if b then "true" else "false") ++ "`"
  | unsigned n => "integer `" ++ toString n ++ "`"
  | signed i => "integer `" ++ toString i ++ "`"
  | float f => "floating point `" ++ f.toText ++ "`"
  | str s => "string " ++ quoted s
  | unit => "null"
  | seq => "sequence"
  | map => "map"

end Unexpected

namespace ReadProblem

/-- The sentence that names a reading problem. -/
def describe : ReadProblem → String
  | eofWhileParsingList => "EOF while parsing a list"
  | eofWhileParsingObject => "EOF while parsing an object"
  | eofWhileParsingString => "EOF while parsing a string"
  | eofWhileParsingValue => "EOF while parsing a value"
  | expectedColon => "expected `:`"
  | expectedListCommaOrEnd => "expected `,` or `]`"
  | expectedObjectCommaOrEnd => "expected `,` or `\x7d`"
  | expectedSomeIdent => "expected ident"
  | expectedSomeValue => "expected value"
  | invalidEscape => "invalid escape"
  | invalidNumber => "invalid number"
  | numberOutOfRange => "number out of range"
  | controlCharacterWhileParsingString =>
      "control character (\\u0000-\\u001F) found while parsing a string"
  | keyMustBeAString => "key must be a string"
  | loneLeadingSurrogateInHexEscape => "lone leading surrogate in hex escape"
  | trailingComma => "trailing comma"
  | trailingCharacters => "trailing characters"
  | unexpectedEndOfHexEscape => "unexpected end of hex escape"
  | invalidType found expected => "invalid type: " ++ found.describe ++ ", expected " ++ expected
  | unknownVariant variant expected =>
      "unknown variant `" ++ variant ++ "`, expected " ++ oneOf expected
  | duplicateField name => "duplicate field `" ++ name ++ "`"

end ReadProblem

/-- A reading problem at a line (from 1) and column (bytes after the last newline). -/
structure ReadError where
  problem : ReadProblem
  line : Nat
  column : Nat
  deriving DecidableEq, Repr

/-- The line and column of a byte index: lines count from 1, columns count the
bytes after the last newline before the index. -/
def positionOf (bytes : List UInt8) (index : Nat) : Nat × Nat :=
  (bytes.take index).foldl
    (fun (place : Nat × Nat) b => if b == 10 then (place.1 + 1, 0) else (place.1, place.2 + 1)) (1, 0)

/-- Place a fault of a reading of `bytes`. -/
def Fault.place (f : Fault) (bytes : List UInt8) : ReadError :=
  let (line, column) := positionOf bytes (bytes.length - f.remaining)
  { problem := f.problem, line, column }

/-- The text of a placed reading problem. -/
def ReadError.message (e : ReadError) : String :=
  e.problem.describe ++ " at line " ++ toString e.line ++ " column " ++ toString e.column

end DigitPalindrome
