/-!
# Laying out help text

Help text is wrapped greedily to a width: each line is cut into words (a word
keeps the spaces after it), and a word that would end past the width starts a new
line, the spaces before the cut dropped. A line may reach the width exactly. The
first word of a line is never moved. Continuation lines are then indented.
-/

namespace DigitPalindrome

namespace Cmdline

/-- Split a line into words, each word followed by the spaces after it. -/
def splitWords (line : List Char) : List (List Char) :=
  let step (state : List (List Char) × List Char × Bool) (c : Char) :
      List (List Char) × List Char × Bool :=
    let (words, current, inSpaces) := state
    if inSpaces && c != ' ' then (words ++ [current], [c], false)
    else (words, current ++ [c], c == ' ')
  let (words, current, _) := line.foldl step ([], [], false)
  if current.isEmpty then words else words ++ [current]

/-- A word without its trailing spaces. -/
def trimWord (word : List Char) : List Char := (word.reverse.dropWhile (· == ' ')).reverse

/-- Wrap the words of one line to `width`, starting a new line before a word whose
end would pass the width. -/
def wrapWords (width : Nat) (words : List (List Char)) : List Char :=
  let step (state : List (List Char) × Nat × Nat) (word : List Char) :
      List (List Char) × Nat × Nat :=
    let (out, carry, index) := state
    let trimmed := trimWord word
    let breakHere := index != 0 && width < carry + trimmed.length
    let out := if breakHere then
        (match out.getLast? with
          | some prior => out.dropLast ++ [trimWord prior]
          | none => out) ++ [['\n']]
      else out
    let carry := if breakHere then 0 else carry
    (out ++ [word], carry + word.length, index + 1)
  let (out, _, _) := words.foldl step ([], 0, 0)
  out.flatten

/-- Wrap every line of a text to `width`. -/
def wrapText (width : Nat) (text : String) : String :=
  "\n".intercalate ((text.splitOn "\n").map fun line => String.ofList (wrapWords width (splitWords line.toList)))

/-- Indent every line after the first. -/
def indentRest (indent : String) (text : String) : String :=
  ("\n" ++ indent).intercalate (text.splitOn "\n")

/-- `n` spaces. -/
def spaces (n : Nat) : String := String.ofList (List.replicate n ' ')

/-- A text padded with spaces to `n` characters. -/
def padRight (n : Nat) (text : String) : String := text ++ spaces (n - text.length)

end Cmdline

end DigitPalindrome
