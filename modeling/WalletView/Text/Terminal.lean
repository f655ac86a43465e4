/-
# Text.Terminal — text for a terminal, and without one

A terminal takes control sequences from the text that it shows: an escape and what follows it, as
far as the sequence goes.  Styled text holds some that set how it looks.

`plain` is what is left of a text where no terminal shows it.  Control sequences go, and so do
control characters, but not the blank ones: these stay even within a sequence that lets them
through, and from one of them on the text counts as shown up to the next character that is not.
A sequence that never ends takes with it all that follows, up to the next escape.
-/

set_option autoImplicit false

namespace WalletView.Text

/-! ## Styled text -/

/-- A text in bold type. -/
def bold (text : String) : String :=
  "\x1b[1m" ++ text ++ "\x1b[0m"

/-- A text in bold and underlined type. -/
def heading (text : String) : String :=
  "\x1b[1m\x1b[4m" ++ text ++ "\x1b[0m"

/-! ## Control sequences -/

/-- The control sequence that a text is in. -/
inductive ControlSequence where
  /-- None: what comes is shown. -/
  | outside
  /-- An escape so far. -/
  | escape
  /-- An escape with marks after it; any other character ends it. -/
  | marked
  /-- An escape and `[`, which sets how text looks; a letter ends it. -/
  | setting
  /-- An escape and `P`, which calls a device. -/
  | device
  /-- A call of a device with numbers. -/
  | deviceNumbers
  /-- A call of a device with marks. -/
  | deviceMarks
  /-- A text for a device or for a program; the byte 9C ends it. -/
  | message
  /-- An escape and `]`, which commands the terminal itself; a bell ends it. -/
  | command
deriving DecidableEq, Repr

/-- Whether a character is a mark within a control sequence. -/
def isMark (c : Char) : Bool :=
  ' ' ≤ c && c ≤ '/'

/-- Whether a character is a control character that leaves room. -/
def isBlankControl (c : Char) : Bool :=
  c = '\t' || c = '\n' || c = '\x0c' || c = '\r'

namespace ControlSequence

/-- Whether a character is shown. -/
def shows : ControlSequence → Char → Bool
  | outside, c => isBlankControl c || (' ' ≤ c && c ≠ '\x7f')
  | escape, c | marked, c | setting, c => isBlankControl c
  | device, _ | deviceNumbers, _ | deviceMarks, _ | message, _ | command, _ => false

/-- The sequence after a character.  An escape begins one wherever it stands, and the control
characters 18 and 1A break one off. -/
def after (s : ControlSequence) (c : Char) : ControlSequence :=
  if c = '\x1b' then escape
  else if c = '\x18' || c = '\x1a' then outside
  else
    match s with
    | outside => outside
    | escape =>
      if isMark c then marked
      else if c = '[' then setting
      else if c = ']' then command
      else if c = 'P' then device
      else if c = 'X' || c = '^' || c = '_' then message
      else if '0' ≤ c && c ≤ '~' then outside
      else escape
    | marked => if '0' ≤ c && c ≤ '~' then outside else marked
    | setting => if '@' ≤ c && c ≤ '~' then outside else setting
    | device =>
      if isMark c then deviceMarks
      else if '0' ≤ c && c ≤ '?' then deviceNumbers
      else if '@' ≤ c && c ≤ '~' then message
      else device
    | deviceNumbers =>
      if isMark c then deviceMarks
      else if '<' ≤ c && c ≤ '~' then message
      else deviceNumbers
    | deviceMarks => if '0' ≤ c && c ≤ '~' then message else deviceMarks
    | message => if (String.utf8EncodeChar c).contains 0x9c then outside else message
    | command => if c = '\x07' then outside else command

/-- The characters of a text that are shown.  After a character that is, `isShowing`, the text
counts as outside of the sequence; one beyond ASCII ends the sequence for good. -/
def shown (s : ControlSequence) (isShowing : Bool) : List Char → List Char
  | [] => []
  | c :: text =>
    if (if isShowing then outside else s).shows c then
      c :: shown (if c < '\x80' then s else outside) true text
    else shown (s.after c) false text

end ControlSequence

/-- A text without control sequences and without control characters that are not blank. -/
def plain (text : String) : String :=
  .ofList (ControlSequence.outside.shown false text.toList)

end WalletView.Text
