import DigitPalindrome.Json.Message
import DigitPalindrome.Settings.Basic

/-!
# Reading settings text

Settings are read from JSON text: an object whose known fields are
`default_output_format`, `show_digits` and `show_span` (other fields are read and
ignored, a known field may appear once), or an array that gives the fields in
that order. A missing field keeps its default. The format is a variant name as a
string, or an object `{"name": null}`. After the value only white space may
follow.
-/

namespace DigitPalindrome

open Bytes

/-- The names of the output formats, in declaration order. -/
def formatNames : List String := OutputFormat.all.map OutputFormat.name

/-- The colon between a key and its value. -/
def readColon (rest : Bytes) : Except Fault Bytes :=
  let rest := skipSpace rest
  match rest with
  | [] => .error (peekFault [] .eofWhileParsingObject)
  | b :: after => if b == ascii ':' then .ok after else .error (peekFault rest .expectedColon)

/-- A variant name: a string naming one of the formats. In the object form the name
is a key, so the object's end where a name should be is a missing value, anything
else that is not a string is a key that is not a string, and the end of the text
ends the object too soon. -/
def readVariantName (rest : Bytes) : Reading OutputFormat :=
  let rest := skipSpace rest
  match rest with
  | [] => .error (peekFault [] .eofWhileParsingObject)
  | b :: after =>
    if b == ascii '"' then
      match readString after with
      | .error f => .error f
      | .ok (name, after) =>
        match OutputFormat.ofName? name with
        | some format => .ok (format, after)
        | none => .error (fault after (.unknownVariant name formatNames))
    else if b == ascii '}' then .error (peekFault rest .expectedSomeValue)
    else .error (peekFault rest .keyMustBeAString)

/-- The `null` that follows a variant name given as an object key. -/
def readUnit (rest : Bytes) : Except Fault Bytes :=
  let rest := skipSpace rest
  match rest with
  | [] => .error (peekFault [] .eofWhileParsingValue)
  | b :: after =>
    if b == ascii 'n' then expectIdent [117, 108, 108] after
    else .error (wrongType "unit" rest)

/-- An output format: `"name"`, or `{"name": null}`. -/
def readFormat (rest : Bytes) : Reading OutputFormat :=
  let rest := skipSpace rest
  match rest with
  | [] => .error (peekFault [] .eofWhileParsingValue)
  | b :: after =>
    if b == ascii '{' then
      match readVariantName after with
      | .error f => .error f
      | .ok (format, after) =>
        match readColon after with
        | .error f => .error f
        | .ok after =>
          match readUnit after with
          | .error f => .error f
          | .ok after =>
            let after := skipSpace after
            match after with
            | [] => .error (fault [] .eofWhileParsingObject)
            | c :: close =>
              if c == ascii '}' then .ok (format, close) else .error (fault after .expectedSomeValue)
    else if b == ascii '"' then readVariantName rest
    else .error (peekFault rest .expectedSomeValue)

/-- A boolean: `true` or `false`. -/
def readBool (rest : Bytes) : Reading Bool :=
  let rest := skipSpace rest
  match rest with
  | [] => .error (peekFault [] .eofWhileParsingValue)
  | b :: after =>
    if b == ascii 't' then (expectIdent [114, 117, 101] after).map fun r => (true, r)
    else if b == ascii 'f' then (expectIdent [97, 108, 115, 101] after).map fun r => (false, r)
    else .error (wrongType "a boolean" rest)

/-- The fields of the settings found so far. -/
structure PartialSettings where
  defaultFormat : Option OutputFormat := none
  showDigits : Option Bool := none
  showSpan : Option Bool := none

/-- The settings with every missing field at its default. -/
def PartialSettings.complete (p : PartialSettings) : Settings :=
  { defaultFormat := p.defaultFormat.getD .plain, showDigits := p.showDigits.getD true,
    showSpan := p.showSpan.getD true }

/-- Why reading the fields of an object stopped: a placed fault, or a field given
twice (placed once the object's end has been looked for). -/
inductive FieldsStop where
  | fault (f : Fault)
  | duplicate (name : String) (rest : Bytes)

/-- The start of the next key of an object, or nothing at its closing brace. -/
def nextKey (first : Bool) (rest : Bytes) : Except Fault (Option Bytes) :=
  match rest with
  | [] => .error (peekFault [] .eofWhileParsingObject)
  | b :: after =>
    if b == ascii '}' then .ok none
    else if b == ascii ',' && !first then .ok (some (skipSpace after))
    else if first then .ok (some rest)
    else .error (peekFault rest .expectedObjectCommaOrEnd)

/-- The fields of an object after its opening brace, up to (not past) its closing
brace. -/
def readFields : Nat → Bool → PartialSettings → Bytes → Except FieldsStop (PartialSettings × Bytes)
  | 0, _, _, rest => .error (.fault (fault rest .eofWhileParsingObject))
  | fuel + 1, first, found, rest =>
    let rest := skipSpace rest
    match nextKey first rest with
    | .error f => .error (.fault f)
    | .ok none => .ok (found, rest)
    | .ok (some keyStart) =>
      match keyStart with
      | [] => .error (.fault (peekFault [] .eofWhileParsingValue))
      | b :: afterQuote =>
        if b == ascii '"' then
          match readString afterQuote with
          | .error f => .error (.fault f)
          | .ok (name, afterKey) =>
            let value {α : Type} (read : Bytes → Reading α)
                (store : α → PartialSettings) : Except FieldsStop (PartialSettings × Bytes) :=
              match readColon afterKey with
              | .error f => .error (.fault f)
              | .ok afterColon =>
                match read afterColon with
                | .error f => .error (.fault f)
                | .ok (v, after) => readFields fuel false (store v) after
            if name == "default_output_format" then
              if found.defaultFormat.isSome then .error (.duplicate name afterKey)
              else value readFormat fun v => { found with defaultFormat := some v }
            else if name == "show_digits" then
              if found.showDigits.isSome then .error (.duplicate name afterKey)
              else value readBool fun v => { found with showDigits := some v }
            else if name == "show_span" then
              if found.showSpan.isSome then .error (.duplicate name afterKey)
              else value readBool fun v => { found with showSpan := some v }
            else
              match readColon afterKey with
              | .error f => .error (.fault f)
              | .ok afterColon =>
                match skipAnyValue afterColon with
                | .error f => .error (.fault f)
                | .ok after => readFields fuel false found after
        else if b == ascii '}' then .error (.fault (peekFault keyStart .trailingComma))
        else .error (.fault (peekFault keyStart .keyMustBeAString))

/-- The start of the next element of an array, or nothing at its closing bracket. -/
def nextElement (first : Bool) (rest : Bytes) : Except Fault (Option Bytes) :=
  let rest := skipSpace rest
  match rest with
  | [] => .error (peekFault [] .eofWhileParsingList)
  | b :: after =>
    if b == ascii ']' then .ok none
    else if b == ascii ',' && !first then
      let next := skipSpace after
      match next with
      | [] => .error (peekFault [] .eofWhileParsingValue)
      | c :: _ => if c == ascii ']' then .error (peekFault next .trailingComma) else .ok (some next)
    else if first then .ok (some rest)
    else .error (peekFault rest .expectedListCommaOrEnd)

/-- One optional element of the settings array: nothing once the array has ended. -/
def readElement {α : Type} (first : Bool) (read : Bytes → Reading α) (rest : Bytes) :
    Reading (Option α) :=
  match nextElement first rest with
  | .error f => .error f
  | .ok none => .ok (none, skipSpace rest)
  | .ok (some start) => (read start).map fun (v, after) => (some v, after)

/-- The closing bracket of the settings array. -/
def endArray (rest : Bytes) : Except Fault Bytes :=
  let rest := skipSpace rest
  match rest with
  | [] => .error (peekFault [] .eofWhileParsingList)
  | b :: after =>
    if b == ascii ']' then .ok after
    else if b == ascii ',' then
      let next := skipSpace after
      match next with
      | c :: _ => if c == ascii ']' then .error (peekFault next .trailingComma)
        else .error (peekFault next .trailingCharacters)
      | [] => .error (peekFault next .trailingCharacters)
    else .error (peekFault rest .trailingCharacters)

/-- The settings array after its opening bracket: the fields in order, each one
optional from where the array ends. -/
def readSettingsArray (rest : Bytes) : Except Fault (Settings × Bytes) := do
  let (format, rest) ← readElement true readFormat rest
  let first := format.isNone
  let (digits, rest) ← readElement first readBool rest
  let first := first && digits.isNone
  let (span, rest) ← readElement first readBool rest
  let rest ← endArray rest
  pure ({ defaultFormat := format, showDigits := digits, showSpan := span : PartialSettings }.complete,
    rest)

/-- The settings object after its opening brace, through its closing brace. -/
def readSettingsObject (rest : Bytes) : Reading Settings :=
  match readFields (rest.length + 1) true {} rest with
  | .error (.fault f) => .error f
  | .error (.duplicate name after) =>
    let after := skipSpace after
    let after := match after with
      | b :: close => if b == ascii '}' then close else after
      | [] => after
    .error (fault after (.duplicateField name))
  | .ok (found, after) =>
    match after with
    | _ :: close => .ok (found.complete, close)
    | [] => .error (peekFault [] .eofWhileParsingObject)

/-- Settings from JSON bytes, followed by nothing but white space. -/
def readSettings (bytes : Bytes) : Except Fault Settings :=
  let rest := skipSpace bytes
  let value : Reading Settings :=
    match rest with
    | [] => .error (peekFault [] .eofWhileParsingValue)
    | b :: after =>
      if b == ascii '[' then readSettingsArray after
      else if b == ascii '{' then readSettingsObject after
      else .error (wrongType "struct AppSettings" rest)
  match value with
  | .error f => .error f
  | .ok (settings, after) =>
    match skipSpace after with
    | [] => .ok settings
    | trailing => .error (peekFault trailing .trailingCharacters)

namespace Settings

/-- Read settings from JSON text; a failure is placed at a line and column. -/
def decode (text : String) : Except ReadError Settings :=
  let bytes := text.toUTF8.toList
  match readSettings bytes with
  | .ok s => .ok s
  | .error f => .error (f.place bytes)

end Settings

end DigitPalindrome
