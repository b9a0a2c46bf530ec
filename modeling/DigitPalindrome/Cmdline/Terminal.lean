/-!
# Text without terminal controls

Messages about the command line are written through a stream that, when it does
not lead to a terminal, removes what only a terminal would act on: escape
sequences such as `ESC [ 2 m`, the strings of device control, operating-system
commands and privacy messages, and single control characters other than the tab,
line feed, form feed and carriage return (DEL goes too). It reads the bytes with
the state machine of a terminal's parser.

The stream works in runs. Between runs it follows the machine from its current
state and opens a run at the first byte the machine would show. Within a run it
judges each byte as if the machine stood in its ground state, and closes the run
before the first byte that would not be shown there; a character beyond ASCII is
kept whole once its first byte is. The machine's state is carried along all the
while: a character beyond ASCII kept within a run leaves it in the ground state,
and the other bytes of a run leave it where it was.
-/

namespace DigitPalindrome

namespace Cmdline

/-- Where a terminal's parser stands. -/
inductive SequenceState where
  /-- Plain text. -/
  | ground
  /-- After `ESC`. -/
  | escape
  /-- After `ESC` and an intermediate byte (`0x20` to `0x2F`). -/
  | escapeIntermediate
  /-- After `ESC [`, the start of a control sequence. -/
  | csiEntry
  /-- Within the parameters of a control sequence. -/
  | csiParam
  /-- Within the intermediate bytes of a control sequence. -/
  | csiIntermediate
  /-- Within a malformed control sequence, until its final byte. -/
  | csiIgnore
  /-- After `ESC P`, the start of a device control string. -/
  | dcsEntry
  /-- Within the parameters of a device control string. -/
  | dcsParam
  /-- Within the intermediate bytes of a device control string. -/
  | dcsIntermediate
  /-- Within a malformed device control string. -/
  | dcsIgnore
  /-- Within the data of a device control string. -/
  | dcsPassthrough
  /-- After `ESC ]`, within an operating-system command, until `BEL`. -/
  | oscString
  /-- After `ESC X`, `ESC ^` or `ESC _`, within a string that is never shown. -/
  | sosPmApcString
  deriving DecidableEq, Repr

namespace SequenceState

/-- Whether a byte is a control character that lays out text: tab, line feed,
form feed or carriage return. -/
def isLayout (b : Nat) : Bool := b == 0x09 || b == 0x0A || b == 0x0C || b == 0x0D

/-- The state after an ASCII byte. `CAN` and `SUB` end any sequence and `ESC`
starts one, whatever the state. -/
def next (s : SequenceState) (b : Nat) : SequenceState :=
  if b == 0x18 || b == 0x1A then ground
  else if b == 0x1B then escape
  else
    match s with
    | ground => ground
    | escape =>
      if b < 0x20 || b == 0x7F then escape
      else if b ≤ 0x2F then escapeIntermediate
      else if b == 0x5B then csiEntry
      else if b == 0x5D then oscString
      else if b == 0x50 then dcsEntry
      else if b == 0x58 || b == 0x5E || b == 0x5F then sosPmApcString
      else ground
    | escapeIntermediate => if b < 0x30 || b == 0x7F then escapeIntermediate else ground
    | csiEntry =>
      if b < 0x20 || b == 0x7F then csiEntry
      else if b ≤ 0x2F then csiIntermediate
      else if b ≤ 0x3F then csiParam
      else ground
    | csiParam =>
      if b < 0x20 || b == 0x7F || (0x30 ≤ b && b ≤ 0x3B) then csiParam
      else if b ≤ 0x2F then csiIntermediate
      else if b ≤ 0x3F then csiIgnore
      else ground
    | csiIntermediate =>
      if b < 0x30 || b == 0x7F then csiIntermediate
      else if b ≤ 0x3F then csiIgnore
      else ground
    | csiIgnore => if b < 0x40 || b == 0x7F then csiIgnore else ground
    | dcsEntry =>
      if b < 0x20 || b == 0x7F then dcsEntry
      else if b ≤ 0x2F then dcsIntermediate
      else if b ≤ 0x3F then dcsParam
      else dcsPassthrough
    | dcsParam =>
      if b < 0x20 || b == 0x7F || (0x30 ≤ b && b ≤ 0x3B) then dcsParam
      else if b ≤ 0x2F then dcsIntermediate
      else if b ≤ 0x3F then dcsIgnore
      else dcsPassthrough
    | dcsIntermediate =>
      if b < 0x30 || b == 0x7F then dcsIntermediate
      else if b ≤ 0x3F then dcsIgnore
      else dcsPassthrough
    | dcsIgnore => dcsIgnore
    | dcsPassthrough => dcsPassthrough
    | oscString => if b == 0x07 then ground else oscString
    | sosPmApcString => sosPmApcString

/-- Whether the parser carries out control characters in this state (rather than
collecting or ignoring them, as within the strings). -/
def executes : SequenceState → Bool
  | ground | escape | escapeIntermediate | csiEntry | csiParam | csiIntermediate | csiIgnore =>
    true
  | _ => false

/-- Whether an ASCII byte read in this state is shown: a printable byte in the
ground state, or a layout control wherever controls are carried out. -/
def shows (s : SequenceState) (b : Nat) : Bool :=
  if b == 0x18 || b == 0x1A || b == 0x1B then false
  else if isLayout b then s.executes
  else s == ground && 0x20 ≤ b && b < 0x7F

/-- The state after a character beyond ASCII that is not shown. Only the string
terminator `0x9C`, which can occur among the character's later bytes, ends the
strings that it ends; the rest of the character is then dropped in the ground
state. -/
def afterWide (s : SequenceState) (c : Char) : SequenceState :=
  match s with
  | dcsIgnore | dcsPassthrough | sosPmApcString =>
    if (String.utf8EncodeChar c).contains 0x9C then ground else s
  | _ => s

end SequenceState

/-- Where the stripping stream stands between characters: the parser's state and
whether a run of shown text is open. -/
structure Stripping where
  state : SequenceState := .ground
  inRun : Bool := false
  deriving DecidableEq, Repr

namespace Stripping

/-- Read one character: the stream afterwards, and the character if it is shown. -/
def feed (st : Stripping) (c : Char) : Stripping × Option Char :=
  let b := c.toNat
  if b < 0x80 then
    if st.inRun && SequenceState.ground.shows b then (st, some c)
    else if st.state.shows b then (⟨st.state.next b, true⟩, some c)
    else (⟨st.state.next b, false⟩, none)
  else if st.inRun || st.state == .ground then (⟨.ground, true⟩, some c)
  else (⟨st.state.afterWide c, false⟩, none)

end Stripping

/-- A text as the stream writes it when it does not lead to a terminal. -/
def withoutControls (text : String) : String :=
  let step (acc : Stripping × List Char) (c : Char) : Stripping × List Char :=
    match acc.1.feed c with
    | (st, some shown) => (st, shown :: acc.2)
    | (st, none) => (st, acc.2)
  String.ofList (text.toList.foldl step ({}, [])).2.reverse

end Cmdline

end DigitPalindrome
