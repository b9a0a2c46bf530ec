/-!
# JSON output trees

Reports and settings are written as JSON. A tree keeps object fields in the order
they are declared, and is printed in the indented form: one element or field per
line, two spaces per level, empty arrays and objects as `[]` and `{}`.
-/

namespace DigitPalindrome

/-- A JSON value to be written out. Numbers are natural numbers: every number the
program writes is a length, an index or a digit. -/
inductive JsonTree where
  /-- `null`. -/
  | null
  /-- `true` or `false`. -/
  | bool (b : Bool)
  /-- A non-negative integer. -/
  | nat (n : Nat)
  /-- A string. -/
  | text (s : String)
  /-- An array. -/
  | list (items : List JsonTree)
  /-- An object with its fields in order. -/
  | object (fields : List (String × JsonTree))
  deriving Repr

namespace JsonTree

/-- Four lowercase hexadecimal digits of a code unit below 65536. -/
def hex4 (n : Nat) : String :=
  let digit (k : Nat) : Char := if k < 10 then Char.ofNat (48 + k) else Char.ofNat (87 + k)
  String.ofList [digit (n / 4096 % 16), digit (n / 256 % 16), digit (n / 16 % 16), digit (n % 16)]

/-- A character as it appears inside a JSON string: quote and backslash escaped,
control characters as short escapes or `\u00XX`, everything else as itself. -/
def escapeChar (c : Char) : String :=
  match c with
  | '"' => "\\\""
  | '\\' => "\\\\"
  | '\n' => "\\n"
  | '\r' => "\\r"
  | '\t' => "\\t"
  | c =>
    if c.toNat == 8 then "\\b"
    else if c.toNat == 12 then "\\f"
    else if c.toNat < 32 then "\\u" ++ hex4 c.toNat
    else c.toString

/-- A string as a JSON string literal. -/
def quote (s : String) : String :=
  "\"" ++ String.join (s.toList.map escapeChar) ++ "\""

/-- Two spaces per level of nesting. -/
def indentation (level : Nat) : String := String.ofList (List.replicate (2 * level) ' ')

mutual

/-- The indented form of a value whose first line is already indented to `level`. -/
def pretty (level : Nat) : JsonTree → String
  | null => "null"
  | bool b => if b then "true" else "false"
  | nat n => toString n
  | text s => quote s
  | list [] => "[]"
  | list (item :: items) =>
    "[\n" ++ prettyItems (level + 1) (item :: items) ++ "\n" ++ indentation level ++ "]"
  | object [] => "\x7b\x7d"
  | object (field :: fields) =>
    "\x7b\n" ++ prettyFields (level + 1) (field :: fields) ++ "\n" ++ indentation level ++ "\x7d"

/-- Array elements, one per line at `level`, separated by commas. -/
def prettyItems (level : Nat) : List JsonTree → String
  | [] => ""
  | [item] => indentation level ++ pretty level item
  | item :: items => indentation level ++ pretty level item ++ ",\n" ++ prettyItems level items

/-- Object fields, one per line at `level`, separated by commas. -/
def prettyFields (level : Nat) : List (String × JsonTree) → String
  | [] => ""
  | [(key, value)] => indentation level ++ quote key ++ ": " ++ pretty level value
  | (key, value) :: fields =>
    indentation level ++ quote key ++ ": " ++ pretty level value ++ ",\n" ++
      prettyFields level fields

end

/-- The indented form of a whole document, without a final newline. -/
def render (t : JsonTree) : String := pretty 0 t

end JsonTree

end DigitPalindrome
