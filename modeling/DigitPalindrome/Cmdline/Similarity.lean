import DigitPalindrome.Binary64

/-!
# Similar names

A mistyped subcommand, option or value is answered with the known names that are
similar to it. Similarity is the Jaro similarity of the two character strings:
with `m` characters matching within a window of half the longer length, and `t`
half the number of matched characters out of order,

  `jaro = (m / |a| + m / |b| + (m - t) / m) / 3`,

evaluated in doubles: each quotient, each sum and the final division is rounded
to the nearest double. A name is suggested when its similarity exceeds the double
nearest `0.7`; suggestions are listed from the least to the most similar (equally
similar names keep their order). The rounding matters: a similarity of exactly
`0.7`, such as `3` matches between names of lengths `5` and `6`, rounds above the
threshold.
-/

namespace DigitPalindrome

namespace Cmdline

/-- The matching characters of `a` against `b`: which positions of `a` and of `b`
matched, each `b` position used once, within `range` positions of each other. -/
def jaroMatches (a b : List Char) (range : Nat) : List Bool × List Bool :=
  let step (state : List Bool × List Bool × Nat) (c : Char) : List Bool × List Bool × Nat :=
    let (aFlags, bFlags, i) := state
    let low := i - range
    let high := min b.length (i + range + 1)
    let hit := (List.range high).find? fun j =>
      low ≤ j && b[j]? == some c && bFlags[j]? == some false
    match hit with
    | some j => (aFlags ++ [true], bFlags.set j true, i + 1)
    | none => (aFlags ++ [false], bFlags, i + 1)
  let (aFlags, bFlags, _) := a.foldl step ([], List.replicate b.length false, 0)
  (aFlags, bFlags)

/-- A non-negative ratio rounded to the nearest double, kept as an exact ratio
(a ratio too large for a double is kept as it is). -/
def roundToDouble (r : Nat × Nat) : Nat × Nat :=
  ((Binary64.ofRatio false r.1 r.2).toRatio?).getD r

/-- The sum of two ratios, rounded to the nearest double. -/
def addRounded (r s : Nat × Nat) : Nat × Nat := roundToDouble (r.1 * s.2 + s.1 * r.2, r.2 * s.2)

/-- The Jaro similarity of two strings as an exact ratio `(numerator, denominator)`
of the double that the formula gives (both empty: `1`; one empty: `0`). -/
def jaro (x y : String) : Nat × Nat :=
  let a := x.toList
  let b := y.toList
  if a.isEmpty && b.isEmpty then (1, 1)
  else if a.isEmpty || b.isEmpty then (0, 1)
  else
    let range := max a.length b.length / 2 - 1
    let (aFlags, bFlags) := jaroMatches a b range
    let matchedA := (a.zip aFlags).filterMap fun (c, f) => if f then some c else none
    let matchedB := (b.zip bFlags).filterMap fun (c, f) => if f then some c else none
    let m := matchedA.length
    if m == 0 then (0, 1)
    else
      let t := ((matchedA.zip matchedB).filter fun (p, q) => p != q).length / 2
      let sum := addRounded (addRounded (roundToDouble (m, a.length)) (roundToDouble (m, b.length)))
        (roundToDouble (m - t, m))
      roundToDouble (sum.1, sum.2 * 3)

/-- The double nearest `0.7`, the similarity a suggestion must exceed. -/
def threshold : Nat × Nat := roundToDouble (7, 10)

/-- Whether the first fraction is strictly below the second. -/
def fractionLess (r s : Nat × Nat) : Bool := r.1 * s.2 < s.1 * r.2

/-- Whether a similarity is high enough for a suggestion. -/
def exceedsThreshold (r : Nat × Nat) : Bool := fractionLess threshold r

/-- Insert into a list kept in ascending order, after the equal elements. -/
def insertAscending (item : (Nat × Nat) × String) : List ((Nat × Nat) × String) →
    List ((Nat × Nat) × String)
  | [] => [item]
  | x :: xs => if fractionLess item.1 x.1 then item :: x :: xs else x :: insertAscending item xs

/-- The names similar to `word`, least similar first. -/
def similarNames (word : String) (names : List String) : List String :=
  let scored := names.filterMap fun n =>
    let r := jaro word n
    if exceedsThreshold r then some (r, n) else none
  (scored.foldl (fun acc item => insertAscending item acc) []).map Prod.snd

/-- The most similar name, if any is similar enough (the last of equally similar
ones). -/
def mostSimilar? (word : String) (names : List String) : Option String :=
  (similarNames word names).getLast?

end Cmdline

end DigitPalindrome
