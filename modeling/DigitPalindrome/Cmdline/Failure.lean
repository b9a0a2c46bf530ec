/-!
# Command-line mistakes

A mistake on the command line is reported as `error: ` and a sentence, then the
similar names that might have been meant and other tips, then the usage line, and
last a pointer to `--help` (for a command without that switch, to its `help`
subcommand or to nothing). The program then stops with status 2.
-/

namespace DigitPalindrome

namespace Cmdline

/-- What was wrong with the command line. -/
inductive UsageProblem where
  /-- An argument that no argument of the command matches. -/
  | unknownArgument (arg : String)
  /-- A name that is no subcommand. -/
  | unrecognizedSubcommand (name : String)
  /-- A value outside an option's fixed values; an empty value means none was
  given. The option's fixed values are listed. -/
  | invalidValue (arg : String) (value : String) (choices : List String)
  /-- Required arguments that were not given. -/
  | missingRequired (args : List String)
  /-- No subcommand was given to a program that needs one. -/
  | missingSubcommand (program : String) (names : List String)
  /-- An argument used together with arguments it conflicts with (itself when it
  was given twice). -/
  | conflict (arg : String) (others : List String)
  /-- A value attached to an argument that takes none. -/
  | unexpectedValue (arg : String) (value : String)
  deriving DecidableEq, Repr

/-- A mistake with what is shown beside it. -/
structure UsageError where
  problem : UsageProblem
  /-- The kind of the similar names (`subcommand`, `argument` or `value`) and the
  names, least similar first. -/
  similar : Option (String × List String) := none
  /-- Further tips, one per line. -/
  tips : List String := []
  /-- The usage line, when it is shown. -/
  usage : Option String := none
  /-- What the last line suggests trying for more information, if anything. -/
  helpPointer : Option String := some "--help"
  deriving DecidableEq, Repr

namespace UsageProblem

/-- A value in a list of possible values, quoted when it holds a space. -/
def listed (value : String) : String :=
  if value.any Char.isWhitespace then "\"" ++ value ++ "\"" else value

/-- The sentence naming the problem. -/
def describe : UsageProblem → String
  | unknownArgument arg => "unexpected argument '" ++ arg ++ "' found"
  | unrecognizedSubcommand name => "unrecognized subcommand '" ++ name ++ "'"
  | invalidValue arg value choices =>
    (if value.isEmpty then "a value is required for '" ++ arg ++ "' but none was supplied"
     else "invalid value '" ++ value ++ "' for '" ++ arg ++ "'") ++
    (if choices.isEmpty then ""
     else "\n  [possible values: " ++ ", ".intercalate (choices.map listed) ++ "]")
  | missingRequired args =>
    "the following required arguments were not provided:" ++ String.join (args.map ("\n  " ++ ·))
  | missingSubcommand program names =>
    "'" ++ program ++ "' requires a subcommand but one was not provided" ++
      (if names.isEmpty then "" else "\n  [subcommands: " ++ ", ".intercalate names ++ "]")
  | conflict arg others =>
    if others == [arg] then "the argument '" ++ arg ++ "' cannot be used multiple times"
    else
      "the argument '" ++ arg ++ "' cannot be used with" ++
        match others with
        | [] => " one or more of the other specified arguments"
        | [other] => " '" ++ other ++ "'"
        | _ => ":" ++ String.join (others.map ("\n  " ++ ·))
  | unexpectedValue arg value =>
    "unexpected value '" ++ value ++ "' for '" ++ arg ++ "' found; no more were expected"

end UsageProblem

namespace UsageError

/-- The tip naming similar names. -/
def similarTip (kind : String) (names : List String) : String :=
  let quotedNames := ", ".intercalate (names.map fun n => "'" ++ n ++ "'")
  match names with
  | [_] => "  tip: a similar " ++ kind ++ " exists: " ++ quotedNames
  | _ => "  tip: some similar " ++ kind ++ "s exist: " ++ quotedNames

/-- The whole report of a mistake, ending with a newline. -/
def render (e : UsageError) : String :=
  let similarPart := match e.similar with
    | some (kind, names) => "\n\n" ++ similarTip kind names
    | none => ""
  let tipsPart :=
    if e.tips.isEmpty then ""
    else (if e.similar.isNone then "\n" else "") ++ String.join (e.tips.map ("\n  tip: " ++ ·))
  let usagePart := match e.usage with
    | some u => "\n\nUsage: " ++ u
    | none => ""
  let pointerPart := match e.helpPointer with
    | some pointer => "\n\nFor more information, try '" ++ pointer ++ "'.\n"
    | none => "\n"
  "error: " ++ e.problem.describe ++ similarPart ++ tipsPart ++ usagePart ++ pointerPart

end UsageError

end Cmdline

end DigitPalindrome
