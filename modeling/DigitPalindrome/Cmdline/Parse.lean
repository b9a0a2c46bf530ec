import DigitPalindrome.Cmdline.Failure
import DigitPalindrome.Cmdline.Help
import DigitPalindrome.Cmdline.Similarity

/-!
# Matching a command line

The arguments are read left to right against the root command until a subcommand
name is met; the rest is read against that subcommand. At each level:

* `--` makes every later argument positional;
* `--name` and `--name=value` are long arguments, `-abc` a cluster of short ones,
  where an option takes the rest of the cluster (after an optional `=`) or the
  next argument as its value;
* an argument that looks like a negative number is a value when the next
  positional argument accepts negative numbers;
* anything else is the pending option's value, or the next positional value.

Given values are checked as soon as the next argument is read (or the command
line ends); help and version switches stop at once. When a level is done, its
environment variables fill in missing values, and then conflicts and required
arguments are checked; the subcommand is checked before the root.
-/

namespace DigitPalindrome

namespace Cmdline

/-- Where a value came from. -/
inductive Source where
  | commandLine
  | environment
  deriving DecidableEq, Repr

/-- An argument that was given, with its values. -/
structure Given where
  arg : ArgSpec
  values : List String
  source : Source
  deriving Repr

/-- Why matching stopped before a command could run. -/
inductive Stop where
  /-- Help was asked for: shown on standard output. -/
  | showHelp (text : String)
  /-- The version was asked for: shown on standard output. -/
  | showVersion (text : String)
  /-- Nothing was given: the help is shown on standard error as a mistake. -/
  | helpOnEmpty (text : String)
  /-- A mistake on the command line. -/
  | mistake (e : UsageError)
  deriving Repr

/-- A level of the command line: the program, the command being matched, its
subcommands (none below the root), and the environment. -/
structure Level where
  program : ProgramSpec
  command : CommandSpec
  subcommands : List CommandSpec
  env : String → Option String

/-- An option waiting for or holding its value. -/
structure Pending where
  arg : ArgSpec
  values : List String
  /-- Whether the option still waits for a value. -/
  awaiting : Bool
  deriving Repr

/-- The state of matching one level. -/
structure LevelState where
  givens : List Given := []
  pending : Option Pending := none
  /-- The index of the next positional argument. -/
  position : Nat := 0
  /-- Whether `--` was seen. -/
  trailing : Bool := false
  deriving Repr

namespace LevelState

/-- Whether an argument was given. -/
def has (st : LevelState) (id : String) : Bool := st.givens.any fun g => g.arg.id == id

/-- The ids of the given arguments, in the order they were given. -/
def givenIds (st : LevelState) : List String := st.givens.map fun g => g.arg.id

end LevelState

/-- Remove repeated strings, keeping first occurrences. -/
def dedupStrings (xs : List String) : List String :=
  xs.foldl (fun acc x => if acc.contains x then acc else acc ++ [x]) []

/-! ## Usage lines -/

namespace Level

/-- The ids of the command's required arguments. -/
def requiredIds (lv : Level) : List String :=
  (lv.command.args.filter ArgSpec.required).map ArgSpec.id

/-- The ids present once the arguments `ids` were given in this order: each
argument, followed by the groups it is the first given member of. -/
def presentIds (lv : Level) (ids : List String) : List String :=
  let add (acc : List String) (id : String) := if acc.contains id then acc else acc ++ [id]
  ids.foldl (fun acc id => ((lv.command.groupsOf id).map ArgGroup.id).foldl add (add acc id)) []

/-- The required arguments of a usage line: the required ids (each after the
arguments it requires) and `extra`, without those already given; options first,
then groups named among them (none of whose members was given, and standing for
their members), then positional arguments in their order. -/
def requiredForms (lv : Level) (required extra : List String) (given : List String) : List String :=
  let unrolled := required.flatMap fun id =>
    ((lv.command.find? id).map ArgSpec.requires).getD [] ++ [id]
  let groups := ((unrolled ++ extra).filterMap lv.command.findGroup?).filter fun g =>
    !g.members.any given.contains
  let members := groups.flatMap ArgGroup.members
  let ids := (unrolled ++ extra).filter fun id => !given.contains id && !members.contains id
  let args := ids.filterMap lv.command.find?
  let opts := dedupStrings ((args.filter fun a => !a.isPositional).map ArgSpec.display)
  let positionals := lv.command.positionals.filter fun p => args.any fun a => a.id == p.id
  opts ++ dedupStrings (groups.map lv.command.groupForm) ++ positionals.map ArgSpec.display

/-- The usage line naming the arguments in `used` (and the required ones); the
full usage line when `used` is empty. -/
def usageLine (lv : Level) (required used : List String) : String :=
  if used.isEmpty then helpUsage lv.command (!lv.subcommands.isEmpty)
  else
    lv.command.usageName ++ String.join ((lv.requiredForms required used []).map (" " ++ ·)) ++
      (if lv.subcommands.isEmpty then "" else " <COMMAND>")

/-- The full usage line. -/
def fullUsage (lv : Level) : String := helpUsage lv.command (!lv.subcommands.isEmpty)

/-- How the report of a mistake points to more help: the command's help switch,
else its `help` subcommand, else nothing. -/
def helpPointer (lv : Level) : Option String :=
  if lv.command.args.any (fun a => a.action == .help) then some "--help"
  else if lv.subcommands.any (fun c => c.name == "help") then some "help"
  else none

/-- A mistake shown with the full usage line. -/
def withUsage (lv : Level) (problem : UsageProblem) (tips : List String := []) : Stop :=
  .mistake { problem, tips, usage := some lv.fullUsage, helpPointer := lv.helpPointer }

/-- The help of the level's command. -/
def help (lv : Level) (long : Bool) : String :=
  helpText lv.program lv.env lv.command lv.subcommands long

end Level

/-! ## Taking values -/

/-- The mistake in one value, if any: a value outside the argument's fixed values,
or an empty path. -/
def valueMistake? (a : ArgSpec) (value : String) : Option Stop :=
  let names := a.choices.map Choice.name
  if !a.choices.isEmpty then
    if names.contains value then none
    else
      some (.mistake
        { problem := .invalidValue a.display value names
          similar := (mostSimilar? value names).map fun n => ("value", [n]) })
  else if a.refuseEmpty && value.isEmpty then
    some (.mistake { problem := .invalidValue a.display "" [] })
  else none

/-- The givens with more values for an argument that takes any number of them: added
to its entry, or a new entry at the end. -/
def appendValues (givens : List Given) (a : ArgSpec) (values : List String) (source : Source) :
    List Given :=
  if givens.any (fun g => g.arg.id == a.id) then
    givens.map fun g => if g.arg.id == a.id then { g with values := g.values ++ values } else g
  else givens ++ [⟨a, values, source⟩]

/-- Try to record an argument as given: the state afterwards, and what stops
matching, if anything. A missing value stops before anything is recorded; help and
version stop at once; a switch or single value given a second time stops after its
first occurrence is removed; a wrong value stops after the argument is recorded.
`long` tells whether the long name was used. -/
def attempt (lv : Level) (st : LevelState) (a : ArgSpec) (values : List String) (source : Source)
    (long : Bool) : LevelState × Option Stop :=
  if source == .commandLine && a.takesValue && values.isEmpty then
    (st, some (.mistake { problem := .invalidValue a.display "" (a.choices.map Choice.name) }))
  else
    match a.action with
    | .help => (st, some (.showHelp (lv.help long)))
    | .version => (st, some (.showVersion (versionText lv.program lv.command)))
    | .append =>
      ({ st with givens := appendValues st.givens a values source },
        values.findSome? (valueMistake? a))
    | _ =>
      if st.has a.id then
        ({ st with givens := st.givens.filter fun g => g.arg.id != a.id },
          some (lv.withUsage (.conflict a.display [a.display])))
      else
        ({ st with givens := st.givens ++ [⟨a, values, source⟩] },
          values.findSome? (valueMistake? a))

/-- Record an argument as given, or stop. -/
def react (lv : Level) (st : LevelState) (a : ArgSpec) (values : List String) (source : Source)
    (long : Bool) : Except Stop LevelState :=
  match attempt lv st a values source long with
  | (st, none) => .ok st
  | (_, some stop) => .error stop

/-- Record the pending option's values, if any. -/
def resolvePending (lv : Level) (st : LevelState) : Except Stop LevelState :=
  match st.pending with
  | none => .ok st
  | some p => react lv { st with pending := none } p.arg p.values .commandLine true

/-- The state after recording the pending option, whatever stopped it (before
another mistake is reported). -/
def dropPending (lv : Level) (st : LevelState) : LevelState :=
  match st.pending with
  | none => st
  | some p => (attempt lv { st with pending := none } p.arg p.values .commandLine true).1

/-! ## Reading arguments -/

/-- Whether text after a `-` reads as a number: digits with at most one `.` (not
first) and at most one exponent mark `e` or `E` (not first, not last), the `.`
before the mark. -/
def looksNumeric (body : List Char) : Bool :=
  let step (state : Option (Bool × Option Nat × Nat)) (c : Char) : Option (Bool × Option Nat × Nat) :=
    match state with
    | none => none
    | some (seenDot, ePosition, i) =>
      if c.isDigit then some (seenDot, ePosition, i + 1)
      else if c == '.' && !seenDot && ePosition.isNone && 0 < i then some (true, ePosition, i + 1)
      else if (c == 'e' || c == 'E') && ePosition.isNone && 0 < i then some (seenDot, some i, i + 1)
      else none
  match body.foldl step (some (false, none, 0)) with
  | none => false
  | some (_, ePosition, _) =>
    match ePosition with
    | some i => i + 1 != body.length
    | none => true

/-- The tip for passing something that looks like an argument as a value. -/
def valueTip (arg : String) : String :=
  "to pass '" ++ arg ++ "' as a value, use '-- " ++ arg ++ "'"

/-- The mistake for an unknown long argument `--name`: a similar long name of
this command, or of a subcommand named later on the line, is suggested. -/
def unknownLong (lv : Level) (st : LevelState) (name : String) (rest : List String) : Stop :=
  let here := mostSimilar? name lv.command.longNames
  -- among subcommands with a similar long name, the one named first in the rest
  let offers := lv.subcommands.filterMap fun c =>
    match mostSimilar? name c.longNames, rest.idxOf? c.name with
    | some candidate, some place => some (place, candidate, c.name)
    | _, _ => none
  let elsewhere := (offers.foldl (fun best o => match best with
      | some b => if o.1 < b.1 then some o else some b
      | none => some o) none).map Prod.snd
  let suggestedId := here.bind fun n => (lv.command.findLong? n).map ArgSpec.id
  let used := st.givenIds ++ suggestedId.toList
  let offerValue := here.isNone && !st.trailing && !lv.command.positionals.isEmpty
  let arg := "--" ++ name
  let tips := (if offerValue then [valueTip arg] else []) ++
    (match here, elsewhere with
      | none, some (candidate, command) => ["'" ++ command ++ " --" ++ candidate ++ "' exists"]
      | _, _ => [])
  .mistake
    { problem := .unknownArgument arg
      similar := here.map fun n => ("argument", ["--" ++ n])
      tips
      usage := some (lv.usageLine lv.requiredIds used) }

/-- The mistake for a value with no positional argument left to take it. -/
def strayValue (lv : Level) (st : LevelState) (arg : String) : Stop :=
  if st.trailing && lv.subcommands.any (fun c => c.answersTo arg) then
    lv.withUsage (.unknownArgument arg)
      ["subcommand '" ++ arg ++ "' exists; to use it, remove the '--' before it"]
  else
    let candidates :=
      if lv.subcommands.isEmpty then [] else similarNames arg lv.program.commandNames
    if !candidates.isEmpty then
      .mistake
        { problem := .unrecognizedSubcommand arg
          similar := some ("subcommand", candidates)
          usage := some lv.fullUsage }
    else if !lv.subcommands.isEmpty then lv.withUsage (.unrecognizedSubcommand arg)
    else lv.withUsage (.unknownArgument arg)

/-- Read one long argument `--name` or `--name=value`. -/
def readLong (lv : Level) (st : LevelState) (body : String) (rest : List String) :
    Except Stop LevelState := do
  let (name, attached) := match body.splitOn "=" with
    | [] => (body, none)
    | [n] => (n, none)
    | n :: vs => (n, some ("=".intercalate vs))
  match lv.command.findLong? name with
  | none => throw (unknownLong lv (dropPending lv st) name rest)
  | some a =>
    if a.takesValue then
      let st ← resolvePending lv st
      match attached with
      | some v => react lv st a [v] .commandLine true
      | none => return { st with pending := some ⟨a, [], true⟩ }
    else
      match attached with
      | some v =>
        -- what was given so far, groups included; a pending value is not yet given
        let required := lv.requiredIds
        let used := ((lv.presentIds st.givenIds).filter fun id => !required.contains id) ++ [a.id]
        throw (.mistake
          { problem := .unexpectedValue a.display v
            usage := some (lv.usageLine required used) })
      | none =>
        let st ← resolvePending lv st
        react lv st a [] .commandLine true

/-- Read a cluster of short arguments, character by character. -/
def readShorts (lv : Level) : LevelState → List Char → Except Stop LevelState
  | st, [] => .ok st
  | st, c :: more =>
    match lv.command.findShort? c with
    | none =>
      let arg := "-" ++ c.toString
      let offerValue := !st.trailing && !lv.command.positionals.isEmpty
      .error (lv.withUsage (.unknownArgument arg) (if offerValue then [valueTip arg] else []))
    | some a =>
      if a.takesValue then
        let attached := match more with
          | [] => none
          | '=' :: value => some (String.ofList value)
          | value => some (String.ofList value)
        match resolvePending lv st with
        | .error e => .error e
        | .ok st =>
          match attached with
          | some v => react lv st a [v] .commandLine false
          | none => .ok { st with pending := some ⟨a, [], true⟩ }
      else
        match resolvePending lv st with
        | .error e => .error e
        | .ok st =>
          match react lv st a [] .commandLine false with
          | .error e => .error e
          | .ok st => readShorts lv st more

/-- How reading the arguments of a level ended. -/
inductive LevelEnd where
  /-- The arguments ran out. -/
  | done (st : LevelState)
  /-- A subcommand name was met; the rest belongs to it. -/
  | descend (st : LevelState) (command : CommandSpec) (rest : List String)
  deriving Repr

/-- Whether an argument is taken as a value although it starts with `-`: it reads as
a negative number and the waiting option or the next positional argument accepts
negative numbers. -/
def takesAsNegative (lv : Level) (st : LevelState) (arg : String) : Bool :=
  let pendingTakes := match st.pending with
    | some p => p.awaiting && p.arg.allowNegativeNumbers
    | none => false
  let positionalTakes :=
    (lv.command.positionals[st.position]?.map ArgSpec.allowNegativeNumbers).getD false
  (pendingTakes || positionalTakes) && looksNumeric (arg.toList.drop 1)

/-- Take a plain argument: the waiting option's value, or the next positional
value. A positional value, like an option's, is only recorded when the next
argument is read or the command line ends. -/
def takeValue (lv : Level) (st : LevelState) (arg : String) : Except Stop LevelState := do
  match st.pending with
  | some p =>
    if p.awaiting && !st.trailing then
      return { st with pending := some { p with values := p.values ++ [arg], awaiting := false } }
    else pure ()
  | none => pure ()
  match lv.command.positionals[st.position]? with
  | some a =>
    if a.action == .append then
      match st.pending with
      | some p =>
        if p.arg.id == a.id then
          return { st with pending := some { p with values := p.values ++ [arg] } }
        else pure ()
      | none => pure ()
      let st ← resolvePending lv st
      return { st with pending := some ⟨a, [arg], false⟩ }
    else
      let st ← resolvePending lv st
      return { st with pending := some ⟨a, [arg], false⟩, position := st.position + 1 }
  | none => throw (strayValue lv (dropPending lv st) arg)

/-- The help for the `help` subcommand's arguments: the help of the named
subcommand, or of the program when none is named. -/
def helpFor (program : ProgramSpec) (env : String → Option String) (root : Level) :
    List String → Stop
  | [] => .showHelp (root.help true)
  | name :: more =>
    match program.command? name with
    | none => root.withUsage (.unrecognizedSubcommand name)
    | some c =>
      let lv : Level := { program, command := c, subcommands := [], env }
      match more with
      | [] => .showHelp (lv.help true)
      | other :: _ => lv.withUsage (.unrecognizedSubcommand other)

/-- Whether an option waits for its value; then the next argument is that value,
even when it names a subcommand. -/
def LevelState.awaitingValue (st : LevelState) : Bool :=
  match st.pending with
  | some p => p.awaiting
  | none => false

/-- The subcommand an argument names, when it can name one here: not after `--`
and not where an option waits for its value. -/
def namedSubcommand? (lv : Level) (st : LevelState) (arg : String) : Option CommandSpec :=
  if st.trailing || st.awaitingValue then none
  else lv.subcommands.find? fun c => c.answersTo arg

/-- Read the arguments of a level until they run out or a subcommand is named. -/
def readLevel (lv : Level) : LevelState → List String → Except Stop LevelEnd
  | st, [] => .ok (.done st)
  | st, arg :: rest =>
    if let some c := namedSubcommand? lv st arg then
      if c.name == "help" then .error (helpFor lv.program lv.env lv rest)
      else .ok (.descend st c rest)
    else if !st.trailing && arg == "--" then readLevel lv { st with trailing := true } rest
    else if !st.trailing && arg.startsWith "--" then
      match readLong lv st (arg.drop 2).toString rest with
      | .error e => .error e
      | .ok st => readLevel lv st rest
    else if !st.trailing && arg.startsWith "-" && arg != "-" && !takesAsNegative lv st arg then
      match readShorts lv st (arg.toList.drop 1) with
      | .error e => .error e
      | .ok st => readLevel lv st rest
    else
      match takeValue lv st arg with
      | .error e => .error e
      | .ok st => readLevel lv st rest

/-! ## Checking a level -/

/-- Fill in values from the environment for arguments that were not given. -/
def addEnvironment (lv : Level) (st : LevelState) : Except Stop LevelState :=
  lv.command.args.foldlM (fun st a =>
    match a.env with
    | some var =>
      if st.has a.id then .ok st
      else
        match lv.env var with
        | some value => react lv st a [value] .environment true
        | none => .ok st
    | none => .ok st) st

/-- Whether two arguments conflict, in either direction. -/
def conflicting (a b : ArgSpec) : Bool :=
  a.id != b.id && (a.conflictsWith.contains b.id || b.conflictsWith.contains a.id)

/-- The first given argument that conflicts with another given one. -/
def checkConflicts (lv : Level) (st : LevelState) : Except Stop Unit :=
  match st.givens.findSome? fun g =>
      let others := st.givens.filter fun o => conflicting g.arg o.arg
      if others.isEmpty then none else some (g, others) with
  | none => .ok ()
  | some (g, others) =>
    let conflictIds := others.map fun o => o.arg.id
    let usedFiltered := st.givenIds.filter fun id => !conflictIds.contains id
    let required := (usedFiltered.flatMap fun id =>
        ((lv.command.find? id).map ArgSpec.requires).getD []).filter fun id =>
          !usedFiltered.contains id && !conflictIds.contains id
    .error (.mistake
      { problem := .conflict g.arg.display (dedupStrings (others.map fun o => o.arg.display))
        usage := some (lv.usageLine lv.requiredIds (required ++ usedFiltered)) })

/-- Every required argument, and every argument a given one requires, was given. -/
def checkRequired (lv : Level) (st : LevelState) : Except Stop Unit :=
  let required := dedupStrings (lv.requiredIds ++ st.givens.flatMap fun g => g.arg.requires)
  let missing := required.filter fun id =>
    !st.has id && !(st.givens.any fun g => match lv.command.find? id with
      | some a => conflicting a g.arg
      | none => false)
  if missing.isEmpty then .ok ()
  else
    let forms := lv.requiredForms required missing st.givenIds
    .error (.mistake
      { problem := .missingRequired forms
        usage := some (lv.usageLine required (st.givenIds ++ missing)) })

/-- Finish a level: record the pending option, fill in the environment, then
check that a subcommand was named (when one is needed), conflicts and required
arguments. -/
def finishLevel (lv : Level) (st : LevelState) (namedSubcommand : Bool) :
    Except Stop LevelState := do
  let st ← resolvePending lv st
  let st ← addEnvironment lv st
  if !namedSubcommand && !lv.subcommands.isEmpty then
    if st.givens.isEmpty then throw (.helpOnEmpty (lv.help false))
    throw (lv.withUsage (.missingSubcommand lv.program.root.name lv.program.commandNames))
  checkConflicts lv st
  checkRequired lv st
  return st

/-! ## The whole command line -/

/-- A matched command line: what was given to the root, the subcommand, and what
was given to it. -/
structure Matches where
  root : List Given
  command : CommandSpec
  sub : List Given
  deriving Repr

/-- Match a command line (without the program name) against a program. -/
def matchArgs (program : ProgramSpec) (env : String → Option String) (args : List String) :
    Except Stop Matches := do
  let rootLevel : Level := { program, command := program.root, subcommands := program.commands, env }
  match ← readLevel rootLevel {} args with
  | .done st =>
    let _ ← finishLevel rootLevel st false
    throw (rootLevel.withUsage (.missingSubcommand program.root.name program.commandNames))
  | .descend st command rest =>
    let subLevel : Level := { program, command, subcommands := [], env }
    let subState ← match ← readLevel subLevel {} rest with
      | .done subState => pure subState
      | .descend subState _ _ => pure subState
    let subState ← finishLevel subLevel subState false
    let st ← finishLevel rootLevel st true
    return { root := st.givens, command, sub := subState.givens }

namespace Matches

/-- The given entry of an argument at the root and at the subcommand. -/
def lookup (m : Matches) (id : String) : Option Given × Option Given :=
  (m.root.find? fun g => g.arg.id == id, m.sub.find? fun g => g.arg.id == id)

/-- Whether a switch was given at either level. -/
def flag (m : Matches) (id : String) : Bool :=
  let (r, s) := m.lookup id
  r.isSome || s.isSome

/-- The value of a single-valued argument: a command-line value at the subcommand,
else at the root, else one from the environment. -/
def value? (m : Matches) (id : String) : Option String :=
  let (r, s) := m.lookup id
  let fromLine (g : Option Given) : Option String :=
    g.bind fun g => if g.source == .commandLine then g.values.head? else none
  let fromAny (g : Option Given) : Option String := g.bind fun g => g.values.head?
  (fromLine s).or ((fromLine r).or ((fromAny s).or (fromAny r)))

end Matches

end Cmdline

end DigitPalindrome
