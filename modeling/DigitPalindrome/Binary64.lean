/-!
# Exact binary64 values

IEEE 754 doubles appear twice: a JSON number that is not an integer is read as a
double, and similarity scores of names are computed in doubles. Doubles are
kept here as exact data, `±mantissa · 2^exponent`, and every operation rounds its
exact result to the nearest double (ties to even) with integer arithmetic, so
reading a number is an ordinary function.

The shortest decimal text of a double is the decimal with the fewest significant
digits that rounds back to it, choosing the one nearest the exact value; it is
laid out as `12.5`, `1000.0`, `0.001`, `1e+300` or `1.5e-7`.
-/

namespace DigitPalindrome

/-- A binary64 value: a finite `±mantissa · 2^exponent` with `mantissa < 2^53` and
`-1074 ≤ exponent ≤ 971` (normalised when `mantissa ≥ 2^52`), or an infinity. -/
inductive Binary64 where
  | finite (negative : Bool) (mantissa : Nat) (exponent : Int)
  | infinite (negative : Bool)
  deriving DecidableEq, Repr

namespace Binary64

/-- The exponent of the smallest positive double, `2^-1074`. -/
def minExponent : Int := -1074

/-- The largest exponent of a finite double (with a 53-bit mantissa). -/
def maxExponent : Int := 971

/-- The pair `(N, D)` with `N / D = num / (den · 2^e)`. -/
def scaleDown (num den : Nat) (e : Int) : Nat × Nat :=
  if 0 ≤ e then (num, den * Nat.pow 2 e.toNat) else (num * Nat.pow 2 (-e).toNat, den)

/-- The integer nearest to `N / D`, ties to even. -/
def roundHalfEven (N D : Nat) : Nat :=
  let q := N / D
  let r := N % D
  if D < 2 * r ∨ (2 * r = D ∧ q % 2 = 1) then q + 1 else q

/-- The double nearest to `±num / den` (ties to even); past the largest finite
double the result is infinite. -/
def ofRatio (negative : Bool) (num den : Nat) : Binary64 :=
  if num = 0 ∨ den = 0 then finite negative 0 minExponent
  else
    let guess : Int := (num.log2 : Int) - (den.log2 : Int) - 52
    let exponent :=
      let (n, d) := scaleDown num den guess
      if n < Nat.pow 2 52 * d then guess - 1 else guess
    let clamped := max exponent minExponent
    let (n, d) := scaleDown num den clamped
    let q := roundHalfEven n d
    let (q, e) := if q = Nat.pow 2 53 then (Nat.pow 2 52, clamped + 1) else (q, clamped)
    if maxExponent < e then infinite negative else finite negative q e

/-- The double nearest to a natural number. -/
def ofNat (n : Nat) : Binary64 := ofRatio false n 1

/-- Whether the value is a zero of either sign. -/
def isZero : Binary64 → Bool
  | finite _ m _ => m == 0
  | infinite _ => false

/-- Whether the value is an infinity. -/
def isInfinite : Binary64 → Bool
  | finite .. => false
  | infinite _ => true

/-- The value with its sign flipped. -/
def negate : Binary64 → Binary64
  | finite s m e => finite (!s) m e
  | infinite s => infinite (!s)

/-- The value as an exact ratio `num / den` of natural numbers (its magnitude). -/
def magnitudeRatio (m : Nat) (e : Int) : Nat × Nat :=
  if 0 ≤ e then (m * Nat.pow 2 e.toNat, 1) else (m, Nat.pow 2 (-e).toNat)

/-- The exact magnitude of a finite double as a ratio `num / den`; none for an
infinity. -/
def toRatio? : Binary64 → Option (Nat × Nat)
  | finite _ m e => some (magnitudeRatio m e)
  | infinite _ => none

/-- The rounded product of two doubles. -/
def mul : Binary64 → Binary64 → Binary64
  | finite s m e, finite t n f =>
    let (a, b) := magnitudeRatio (m * n) (e + f)
    ofRatio (s != t) a b
  | finite s _ _, infinite t => infinite (s != t)
  | infinite s, finite t _ _ => infinite (s != t)
  | infinite s, infinite t => infinite (s != t)

/-- The rounded quotient of a finite double by a non-zero finite double. -/
def div : Binary64 → Binary64 → Binary64
  | finite s m e, finite t n f =>
    let (a, b) := magnitudeRatio m e
    let (c, d) := magnitudeRatio n f
    ofRatio (s != t) (a * d) (b * c)
  | infinite s, finite t _ _ => infinite (s != t)
  | finite s _ _, infinite t => finite (s != t) 0 minExponent
  | infinite s, infinite t => infinite (s != t)

/-- The double nearest to `10^k`. -/
def pow10 (k : Nat) : Binary64 := ofRatio false (Nat.pow 10 k) 1

/-- Scale a significand by a power of ten the way a JSON reader does it: multiply
or divide by one table power `10^k` (`k ≤ 308`), dividing by `10^308` first while
the exponent is below the table. Nothing comes back when the result is too large
for a double. -/
def fromParts (positive : Bool) (significand : Nat) (exponent : Int) : Option Binary64 :=
  let sign (f : Binary64) : Binary64 := if positive then f else negate f
  let rec go : Nat → Binary64 → Int → Option Binary64
    | 0, f, _ => some (sign f)
    | fuel + 1, f, exponent =>
      if exponent.natAbs ≤ 308 then
        if 0 ≤ exponent then
          let g := mul f (pow10 exponent.natAbs)
          if g.isInfinite then none else some (sign g)
        else some (sign (div f (pow10 exponent.natAbs)))
      else if f.isZero then some (sign f)
      else if 0 ≤ exponent then none
      else go fuel (div f (pow10 308)) (exponent + 308)
  go 8 (ofNat significand) exponent

/-- The decimal digits of a natural number, most significant first. -/
def decimalText (n : Nat) : String := toString n

/-- For a positive double `m · 2^e`, the shortest decimal `d · 10^p` that rounds
back to it, nearest to the exact value among the shortest. -/
def shortestDecimal (m : Nat) (e : Int) : Nat × Int :=
  -- The rounding interval, as multiples of 2^(e-2): [lower, upper] around 4m.
  let boundary := m == Nat.pow 2 52 && minExponent < e
  let lower := if boundary then 4 * m - 1 else 4 * m - 2
  let upper := 4 * m + 2
  let inclusive := m % 2 == 0
  let s := e - 2
  -- x · 2^s / 10^p as a ratio of natural numbers.
  let ratio (x : Nat) (p : Int) : Nat × Nat :=
    (x * Nat.pow 2 (max s 0).toNat * Nat.pow 10 (max (-p) 0).toNat,
      Nat.pow 2 (max (-s) 0).toNat * Nat.pow 10 (max p 0).toNat)
  let candidate (p : Int) : Option (Nat × Int) :=
    let (ln, ld) := ratio lower p
    let (un, ud) := ratio upper p
    let lowest := if ln % ld == 0 then (if inclusive then ln / ld else ln / ld + 1) else ln / ld + 1
    let highest := if un % ud == 0 then (if inclusive then un / ud else un / ud - 1) else un / ud
    if lowest ≤ highest && 0 < highest then
      let (vn, vd) := ratio (4 * m) p
      let nearest := min (max (roundHalfEven vn vd) lowest) highest
      some (nearest, p)
    else none
  match (List.range 700).findSome? (fun (i : Nat) => candidate (330 - (i : Int))) with
  | some r => r
  | none => (m, 0)

/-- The exponent part of a double's text: `e+17`, `e-7`. -/
def exponentText (k : Int) : String := "e" ++ (if 0 ≤ k then "+" else "") ++ toString k

/-- The text of a finite double: `0.0`, `12.5`, `1000.0`, `0.001`, `1e+300`,
`1.5e-7`, with a leading `-` when negative. Positional notation is used while the
decimal point falls within sixteen digits of the first digit, or at most five
places before it. -/
def toText : Binary64 → String
  | infinite s => if s then "-inf" else "inf"
  | finite s m e =>
    let sign := if s then "-" else ""
    if m == 0 then sign ++ "0.0"
    else
      let (d, p) := shortestDecimal m e
      let digits := (decimalText d).toList
      let length : Int := digits.length
      let kk := length + p
      let zeros (n : Nat) : String := String.ofList (List.replicate n '0')
      let body :=
        if 0 ≤ p ∧ kk ≤ 16 then
          String.ofList digits ++ zeros p.toNat ++ ".0"
        else if 0 < kk ∧ kk ≤ 16 then
          String.ofList (digits.take kk.toNat) ++ "." ++ String.ofList (digits.drop kk.toNat)
        else if -5 < kk ∧ kk ≤ 0 then
          "0." ++ zeros (-kk).toNat ++ String.ofList digits
        else if digits.length == 1 then
          String.ofList digits ++ exponentText (kk - 1)
        else
          String.ofList (digits.take 1) ++ "." ++ String.ofList (digits.drop 1) ++
            exponentText (kk - 1)
      sign ++ body

end Binary64

end DigitPalindrome
