import DigitPalindrome.Binary64

/-!
# Reading JSON text

The pieces of a streaming JSON reader over UTF-8 bytes: white space, keywords,
strings, numbers, skipping a whole value, and describing a value of the wrong
type. A reader works on the bytes not yet consumed; a fault records how many
bytes were left where it is reported, and the final message turns that into a
line (from 1) and a column (bytes since the last newline).

Faults raised on a byte that was only looked at ("peeked") are reported one byte
further on, as if that byte had been consumed.
-/

namespace DigitPalindrome

/-- The bytes of JSON text not yet consumed. -/
abbrev Bytes := List UInt8

/-- A value of the wrong type, as the reader describes it. -/
inductive Unexpected where
  | bool (b : Bool)
  | unsigned (n : Nat)
  | signed (i : Int)
  | float (f : Binary64)
  | str (s : String)
  | unit
  | seq
  | map
  deriving DecidableEq, Repr

/-- Why JSON text could not be read. -/
inductive ReadProblem where
  | eofWhileParsingList
  | eofWhileParsingObject
  | eofWhileParsingString
  | eofWhileParsingValue
  | expectedColon
  | expectedListCommaOrEnd
  | expectedObjectCommaOrEnd
  | expectedSomeIdent
  | expectedSomeValue
  | invalidEscape
  | invalidNumber
  | numberOutOfRange
  | controlCharacterWhileParsingString
  | keyMustBeAString
  | loneLeadingSurrogateInHexEscape
  | trailingComma
  | trailingCharacters
  | unexpectedEndOfHexEscape
  /-- A value of one type where another was expected. -/
  | invalidType (found : Unexpected) (expected : String)
  /-- A name that is none of an enumeration's variants. -/
  | unknownVariant (variant : String) (expected : List String)
  /-- A field given twice in one object. -/
  | duplicateField (name : String)
  deriving DecidableEq, Repr

/-- A problem and the number of bytes left unconsumed where it is reported. -/
structure Fault where
  problem : ReadProblem
  remaining : Nat
  deriving DecidableEq, Repr

/-- A problem reported where the reader stands. -/
def fault (rest : Bytes) (problem : ReadProblem) : Fault := ⟨problem, rest.length⟩

/-- A problem reported on the byte the reader looked at, one byte further on. -/
def peekFault (rest : Bytes) (problem : ReadProblem) : Fault := ⟨problem, rest.length - 1⟩

/-- The result of a reading step: a value and the bytes after it. -/
abbrev Reading (α : Type) := Except Fault (α × Bytes)

namespace Bytes

/-- Whether a byte is JSON white space: space, newline, tab or carriage return. -/
def isSpace (b : UInt8) : Bool := b == 32 || b == 10 || b == 9 || b == 13

/-- Whether a byte is an ASCII digit. -/
def isDigit (b : UInt8) : Bool := 48 ≤ b && b ≤ 57

/-- The bytes after the white space at the front. -/
def skipSpace (rest : Bytes) : Bytes := rest.dropWhile isSpace

/-- The bytes after the digits at the front. -/
def skipDigits (rest : Bytes) : Bytes := rest.dropWhile isDigit

/-- The byte of an ASCII character. -/
def ascii (c : Char) : UInt8 := c.toNat.toUInt8

end Bytes

open Bytes

/-- Consume the rest of a keyword (`ull`, `rue` or `alse`). -/
def expectIdent : List UInt8 → Bytes → Except Fault Bytes
  | [], rest => .ok rest
  | _ :: _, [] => .error (fault [] .eofWhileParsingValue)
  | e :: es, b :: rest => if b == e then expectIdent es rest else .error (fault rest .expectedSomeIdent)

/-! ## Strings -/

/-- The value of a hexadecimal digit byte. -/
def hexValue (b : UInt8) : Option Nat :=
  if 48 ≤ b && b ≤ 57 then some (b.toNat - 48)
  else if 97 ≤ b && b ≤ 102 then some (b.toNat - 87)
  else if 65 ≤ b && b ≤ 70 then some (b.toNat - 55)
  else none

/-- The four hexadecimal digits of a `\u` escape, as a code unit. -/
def readHex4 (rest : Bytes) : Reading Nat :=
  match rest with
  | a :: b :: c :: d :: after =>
    match hexValue a, hexValue b, hexValue c, hexValue d with
    | some w, some x, some y, some z => .ok (((w * 16 + x) * 16 + y) * 16 + z, after)
    | _, _, _, _ => .error (fault after .invalidEscape)
  | _ => .error (fault [] .eofWhileParsingString)

/-- The UTF-8 bytes of a code point. -/
def utf8Bytes (n : Nat) : List UInt8 :=
  if n < 0x80 then [n.toUInt8]
  else if n < 0x800 then [(0xC0 + n / 64).toUInt8, (0x80 + n % 64).toUInt8]
  else if n < 0x10000 then
    [(0xE0 + n / 4096).toUInt8, (0x80 + n / 64 % 64).toUInt8, (0x80 + n % 64).toUInt8]
  else
    [(0xF0 + n / 262144).toUInt8, (0x80 + n / 4096 % 64).toUInt8,
      (0x80 + n / 64 % 64).toUInt8, (0x80 + n % 64).toUInt8]

/-- A `\u` escape of a string that must be valid text: a lone trailing surrogate is
refused, and a leading one must be followed by `\u` and a trailing one. The
decoded bytes are pushed onto `acc` (kept reversed). -/
def readUnicodeEscape (rest : Bytes) (acc : List UInt8) : Reading (List UInt8) :=
  match readHex4 rest with
  | .error f => .error f
  | .ok (n, after) =>
    if 0xDC00 ≤ n ∧ n ≤ 0xDFFF then .error (fault after .loneLeadingSurrogateInHexEscape)
    else if n < 0xD800 ∨ 0xDBFF < n then .ok ((utf8Bytes n).reverse ++ acc, after)
    else
      match after with
      | [] => .error (fault [] .eofWhileParsingString)
      | b :: after =>
        if b != ascii '\\' then .error (fault after .unexpectedEndOfHexEscape)
        else
          match after with
          | [] => .error (fault [] .eofWhileParsingString)
          | c :: after =>
            if c != ascii 'u' then .error (fault after .unexpectedEndOfHexEscape)
            else
              match readHex4 after with
              | .error f => .error f
              | .ok (n2, after) =>
                if n2 < 0xDC00 ∨ 0xDFFF < n2 then
                  .error (fault after .loneLeadingSurrogateInHexEscape)
                else
                  let code := ((n - 0xD800) * 1024 + (n2 - 0xDC00)) + 0x10000
                  .ok ((utf8Bytes code).reverse ++ acc, after)

/-- The byte a one-character escape stands for. -/
def simpleEscape (c : UInt8) : Option UInt8 :=
  if c == ascii '"' then some c
  else if c == ascii '\\' then some c
  else if c == ascii '/' then some c
  else if c == ascii 'b' then some 8
  else if c == ascii 'f' then some 12
  else if c == ascii 'n' then some 10
  else if c == ascii 'r' then some 13
  else if c == ascii 't' then some 9
  else none

/-- The body of a string after its opening quote, up to and including the closing
quote, as text bytes (kept reversed in `acc`). Control characters are refused
and escapes decoded. -/
def readStringBytes : Nat → Bytes → List UInt8 → Reading (List UInt8)
  | 0, _, _ => .error (fault [] .eofWhileParsingString)
  | fuel + 1, rest, acc =>
    match rest with
    | [] => .error (fault [] .eofWhileParsingString)
    | b :: after =>
      if b == ascii '"' then .ok (acc.reverse, after)
      else if b == ascii '\\' then
        match after with
        | [] => .error (fault [] .eofWhileParsingString)
        | c :: after =>
          if c == ascii 'u' then
            match readUnicodeEscape after acc with
            | .error f => .error f
            | .ok (acc, after) => readStringBytes fuel after acc
          else
            match simpleEscape c with
            | some e => readStringBytes fuel after (e :: acc)
            | none => .error (fault after .invalidEscape)
      else if b < 32 then .error (fault after .controlCharacterWhileParsingString)
      else readStringBytes fuel after (b :: acc)

/-- Text from bytes that are valid UTF-8. -/
def textOfBytes (bytes : List UInt8) : String :=
  (String.fromUTF8? (ByteArray.mk bytes.toArray)).getD ""

/-- A string after its opening quote, as text. -/
def readString (rest : Bytes) : Reading String :=
  match readStringBytes (rest.length + 1) rest [] with
  | .error f => .error f
  | .ok (bytes, after) => .ok (textOfBytes bytes, after)

/-- Skip a string after its opening quote without decoding it; escapes are only
checked for shape, and a control character is reported where it stands. -/
def skipString : Nat → Bytes → Except Fault Bytes
  | 0, _ => .error (fault [] .eofWhileParsingString)
  | fuel + 1, rest =>
    match rest with
    | [] => .error (fault [] .eofWhileParsingString)
    | b :: after =>
      if b == ascii '"' then .ok after
      else if b == ascii '\\' then
        match after with
        | [] => .error (fault [] .eofWhileParsingString)
        | c :: after =>
          if c == ascii 'u' then
            match readHex4 after with
            | .error f => .error f
            | .ok (_, after) => skipString fuel after
          else
            match simpleEscape c with
            | some _ => skipString fuel after
            | none => .error (fault after .invalidEscape)
      else if b < 32 then .error (fault rest .controlCharacterWhileParsingString)
      else skipString fuel after

/-! ## Numbers -/

/-- A JSON number as the reader keeps it. -/
inductive NumberValue where
  | unsigned (n : Nat)
  | signed (i : Int)
  | float (f : Binary64)
  deriving DecidableEq, Repr

/-- How the reader describes a number of the wrong type. -/
def NumberValue.unexpected : NumberValue → Unexpected
  | .unsigned n => .unsigned n
  | .signed i => .signed i
  | .float f => .float f

/-- The largest unsigned 64-bit value. -/
def u64Max : Nat := Nat.pow 2 64 - 1

/-- The largest signed 32-bit value. -/
def i32Max : Nat := Nat.pow 2 31 - 1

/-- Clamp an integer to the signed 32-bit range. -/
def clampI32 (v : Int) : Int := max (min v (Int.pow 2 31 - 1)) (-(Int.pow 2 31))

/-- The value of a digit byte. -/
def digitOf (b : UInt8) : Nat := b.toNat - 48

/-- Whether a byte is `e` or `E`. -/
def isExponentMark (b : UInt8) : Bool := b == ascii 'e' || b == ascii 'E'

/-- A double from a significand and a decimal exponent, or the range fault. -/
def floatAt (positive : Bool) (significand : Nat) (exponent : Int) (rest : Bytes) :
    Reading NumberValue :=
  match Binary64.fromParts positive significand exponent with
  | some f => .ok (.float f, rest)
  | none => .error (fault rest .numberOutOfRange)

/-- Skip digits that no longer fit the exponent; a positive exponent of a
non-zero significand is out of range, anything else is a zero. -/
def exponentOverflow (positive zeroSignificand positiveExponent : Bool) (rest : Bytes) :
    Reading NumberValue :=
  if !zeroSignificand && positiveExponent then .error (fault rest .numberOutOfRange)
  else
    let zero := Binary64.finite false 0 Binary64.minExponent
    .ok (.float (if positive then zero else zero.negate), skipDigits rest)

/-- The digits of an exponent after its first digit. -/
def exponentDigits (positive : Bool) (significand : Nat) (startingExponent : Int)
    (positiveExponent : Bool) : Nat → Bytes → Reading NumberValue
  | exponent, [] =>
    let final := if positiveExponent then startingExponent + exponent else startingExponent - exponent
    floatAt positive significand (clampI32 final) []
  | exponent, b :: rest =>
    if isDigit b then
      let d := digitOf b
      if i32Max < exponent * 10 + d then
        exponentOverflow positive (significand == 0) positiveExponent rest
      else exponentDigits positive significand startingExponent positiveExponent (exponent * 10 + d) rest
    else
      let final := if positiveExponent then startingExponent + exponent else startingExponent - exponent
      floatAt positive significand (clampI32 final) (b :: rest)

/-- An exponent part, starting at its `e` or `E`. -/
def readExponent (positive : Bool) (significand : Nat) (startingExponent : Int) (rest : Bytes) :
    Reading NumberValue :=
  let afterMark := rest.drop 1
  let (positiveExponent, afterSign) :=
    match afterMark with
    | b :: after => if b == ascii '+' then (true, after) else if b == ascii '-' then (false, after) else (true, afterMark)
    | [] => (true, afterMark)
  match afterSign with
  | [] => .error (fault [] .eofWhileParsingValue)
  | b :: after =>
    if isDigit b then exponentDigits positive significand startingExponent positiveExponent (digitOf b) after
    else .error (fault after .invalidNumber)

/-- Skip fraction digits that no longer fit the significand. -/
def decimalOverflow (positive : Bool) (significand : Nat) (exponent : Int) (rest : Bytes) :
    Reading NumberValue :=
  let rest := skipDigits rest
  match rest with
  | b :: _ => if isExponentMark b then readExponent positive significand exponent rest
    else floatAt positive significand exponent rest
  | [] => floatAt positive significand exponent rest

/-- The fraction digits after the decimal point; `afterPoint` counts them
(negatively). -/
def fractionDigits (positive : Bool) (exponentBefore : Int) :
    Nat → Int → Bytes → Reading NumberValue
  | significand, afterPoint, [] =>
    if afterPoint == 0 then .error (peekFault [] .eofWhileParsingValue)
    else floatAt positive significand (exponentBefore + afterPoint) []
  | significand, afterPoint, b :: rest =>
    if isDigit b then
      let d := digitOf b
      if u64Max < significand * 10 + d then
        decimalOverflow positive significand (exponentBefore + afterPoint) (b :: rest)
      else fractionDigits positive exponentBefore (significand * 10 + d) (afterPoint - 1) rest
    else if afterPoint == 0 then .error (peekFault (b :: rest) .invalidNumber)
    else if isExponentMark b then readExponent positive significand (exponentBefore + afterPoint) (b :: rest)
    else floatAt positive significand (exponentBefore + afterPoint) (b :: rest)

/-- A fraction part, starting at its decimal point. -/
def readFraction (positive : Bool) (significand : Nat) (exponentBefore : Int) (rest : Bytes) :
    Reading NumberValue :=
  fractionDigits positive exponentBefore significand 0 (rest.drop 1)

/-- Integer digits past the 64-bit range: they only raise the decimal exponent. -/
def longIntegerDigits (positive : Bool) (significand : Nat) : Nat → Bytes → Reading NumberValue
  | exponent, [] => floatAt positive significand exponent []
  | exponent, b :: rest =>
    if isDigit b then longIntegerDigits positive significand (exponent + 1) rest
    else if b == ascii '.' then readFraction positive significand exponent (b :: rest)
    else if isExponentMark b then readExponent positive significand exponent (b :: rest)
    else floatAt positive significand exponent (b :: rest)

/-- What follows the integer digits: a fraction, an exponent, or the end of an
integer. A negative integer below the signed 64-bit range, or negative zero, is a
double. -/
def afterInteger (positive : Bool) (significand : Nat) (rest : Bytes) : Reading NumberValue :=
  let integer : NumberValue :=
    if positive then .unsigned significand
    else if significand == 0 || Nat.pow 2 63 < significand then .float (Binary64.ofNat significand).negate
    else .signed (-(significand : Int))
  match rest with
  | b :: _ =>
    if b == ascii '.' then readFraction positive significand 0 rest
    else if isExponentMark b then readExponent positive significand 0 rest
    else .ok (integer, rest)
  | [] => .ok (integer, rest)

/-- Integer digits after a non-zero first digit. -/
def integerDigits (positive : Bool) : Nat → Bytes → Reading NumberValue
  | significand, [] => afterInteger positive significand []
  | significand, b :: rest =>
    if isDigit b then
      let d := digitOf b
      if u64Max < significand * 10 + d then longIntegerDigits positive significand 0 (b :: rest)
      else integerDigits positive (significand * 10 + d) rest
    else afterInteger positive significand (b :: rest)

/-- A number after its optional minus sign. -/
def readNumber (positive : Bool) (rest : Bytes) : Reading NumberValue :=
  match rest with
  | [] => .error (fault [] .eofWhileParsingValue)
  | b :: after =>
    if b == ascii '0' then
      match after with
      | c :: _ => if isDigit c then .error (peekFault after .invalidNumber) else afterInteger positive 0 after
      | [] => afterInteger positive 0 after
    else if isDigit b then integerDigits positive (digitOf b) after
    else .error (fault after .invalidNumber)

/-- Skip an exponent part starting at its `e` or `E`. -/
def skipExponent (rest : Bytes) : Except Fault Bytes :=
  let afterMark := rest.drop 1
  let afterSign :=
    match afterMark with
    | b :: after => if b == ascii '+' || b == ascii '-' then after else afterMark
    | [] => afterMark
  match afterSign with
  | [] => .error (fault [] .invalidNumber)
  | b :: after => if isDigit b then .ok (skipDigits after) else .error (fault after .invalidNumber)

/-- Skip a fraction part starting at its decimal point. -/
def skipFraction (rest : Bytes) : Except Fault Bytes :=
  let afterPoint := rest.drop 1
  match afterPoint with
  | b :: _ =>
    if isDigit b then
      let after := skipDigits afterPoint
      match after with
      | c :: _ => if isExponentMark c then skipExponent after else .ok after
      | [] => .ok after
    else .error (peekFault afterPoint .invalidNumber)
  | [] => .error (peekFault [] .invalidNumber)

/-- Skip a number after its optional minus sign, checking only its shape. -/
def skipNumber (rest : Bytes) : Except Fault Bytes :=
  let afterInt : Except Fault Bytes :=
    match rest with
    | [] => .error (fault [] .invalidNumber)
    | b :: after =>
      if b == ascii '0' then
        match after with
        | c :: _ => if isDigit c then .error (peekFault after .invalidNumber) else .ok after
        | [] => .ok after
      else if isDigit b then .ok (skipDigits after)
      else .error (fault after .invalidNumber)
  match afterInt with
  | .error f => .error f
  | .ok after =>
    match after with
    | c :: _ =>
      if c == ascii '.' then skipFraction after
      else if isExponentMark c then skipExponent after
      else .ok after
    | [] => .ok after

/-! ## Skipping whole values -/

/-- After a value inside the open arrays and objects `frames` (innermost first):
close brackets, or step past a comma and, inside an object, the next key and its
colon; `acceptComma` is false right after an opening bracket. The result is the
frames still open and the bytes where the next value starts, or no frames and
the bytes after the last closing bracket. -/
def closeFrames : Nat → Bool → List UInt8 → Bytes → Except Fault (List UInt8 × Bytes)
  | _, _, [], rest => .ok ([], rest)
  | 0, _, _ :: _, rest => .error (fault rest .eofWhileParsingValue)
  | fuel + 1, acceptComma, frame :: outer, rest =>
    let rest := skipSpace rest
    let isArray := frame == ascii '['
    let nextValue (after : Bytes) : Except Fault (List UInt8 × Bytes) :=
      if isArray then .ok (frame :: outer, after)
      else
        let after := skipSpace after
        match after with
        | [] => .error (peekFault [] .eofWhileParsingObject)
        | b :: afterQuote =>
          if b != ascii '"' then .error (peekFault after .keyMustBeAString)
          else
            match skipString (afterQuote.length + 1) afterQuote with
            | .error f => .error f
            | .ok afterKey =>
              let afterKey := skipSpace afterKey
              match afterKey with
              | [] => .error (peekFault [] .eofWhileParsingObject)
              | c :: afterColon =>
                if c == ascii ':' then .ok (frame :: outer, afterColon)
                else .error (peekFault afterKey .expectedColon)
    match rest with
    | [] => .error (peekFault [] (if isArray then .eofWhileParsingList else .eofWhileParsingObject))
    | b :: after =>
      if acceptComma && b == ascii ',' then nextValue after
      else if (isArray && b == ascii ']') || (!isArray && b == ascii '}') then
        closeFrames fuel true outer after
      else if acceptComma then
        .error (peekFault rest (if isArray then .expectedListCommaOrEnd else .expectedObjectCommaOrEnd))
      else nextValue rest

/-- A keyword, number or string at the front, skipped. -/
def skipScalar (rest : Bytes) : Except Fault Bytes :=
  match rest with
  | [] => .error (peekFault [] .eofWhileParsingValue)
  | b :: after =>
    if b == ascii 'n' then expectIdent [117, 108, 108] after
    else if b == ascii 't' then expectIdent [114, 117, 101] after
    else if b == ascii 'f' then expectIdent [97, 108, 115, 101] after
    else if b == ascii '-' then skipNumber after
    else if isDigit b then skipNumber rest
    else if b == ascii '"' then skipString (after.length + 1) after
    else .error (peekFault rest .expectedSomeValue)

/-- Skip one whole value of any shape inside the open `frames`, checking its
syntax; the result is the bytes after it. -/
def skipValue : Nat → List UInt8 → Bytes → Except Fault Bytes
  | 0, _, rest => .error (fault rest .eofWhileParsingValue)
  | fuel + 1, frames, rest =>
    let rest := skipSpace rest
    let continueWith (frames : List UInt8) (acceptComma : Bool) (after : Bytes) :
        Except Fault Bytes :=
      match closeFrames (after.length + 1) acceptComma frames after with
      | .error f => .error f
      | .ok ([], next) => .ok next
      | .ok (frames, next) => skipValue fuel frames next
    match rest with
    | [] => .error (peekFault [] .eofWhileParsingValue)
    | b :: after =>
      if b == ascii '[' || b == ascii '{' then continueWith (b :: frames) false after
      else
        match skipScalar rest with
        | .error f => .error f
        | .ok after => continueWith frames true after

/-- Skip one whole value at the front. -/
def skipAnyValue (rest : Bytes) : Except Fault Bytes := skipValue (rest.length + 1) [] rest

/-! ## Values of the wrong type -/

/-- Read the value at the front far enough to describe it, and report it as not
of the `expected` type. Arrays and objects are reported where they open. -/
def wrongType (expected : String) (rest : Bytes) : Fault :=
  let found (r : Reading Unexpected) : Fault :=
    match r with
    | .error f => f
    | .ok (u, after) => fault after (.invalidType u expected)
  match rest with
  | [] => peekFault rest .expectedSomeValue
  | b :: after =>
    if b == ascii 'n' then found ((expectIdent [117, 108, 108] after).map fun r => (.unit, r))
    else if b == ascii 't' then found ((expectIdent [114, 117, 101] after).map fun r => (.bool true, r))
    else if b == ascii 'f' then
      found ((expectIdent [97, 108, 115, 101] after).map fun r => (.bool false, r))
    else if b == ascii '-' then
      found ((readNumber false after).map fun (n, r) => (n.unexpected, r))
    else if isDigit b then found ((readNumber true rest).map fun (n, r) => (n.unexpected, r))
    else if b == ascii '"' then found ((readString after).map fun (s, r) => (.str s, r))
    else if b == ascii '[' then fault rest (.invalidType .seq expected)
    else if b == ascii '{' then fault rest (.invalidType .map expected)
    else peekFault rest .expectedSomeValue

end DigitPalindrome
