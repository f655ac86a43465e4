/-
# Logging.Filter — the language of log filters

A filter is a list of directives with commas between them; empty directives are passed over.  A
directive is one of

* a level, or a target, which begins with a letter, a numeral, `-`, `:` or `_`;
* a target, then `=` and a level, which may be left out;
* a span in brackets, with a target in front or none, and with `=` and a level behind or none.
  A span can end with a condition on a field in braces, which must not be empty.

A level is a numeral from 0 to 5, a plus sign or zeros in front or not, or one of six words in
any case.  A condition names a field and, behind `=`, the number or the pattern that its value
is compared with; what stands behind another `=` counts for nothing.

Blanks may stand around a directive, but its parts are looked up as if there were none in front
of it: at a place too early by the bytes that they take up.  So no level can be set by `=` behind
blanks, and a condition is made of other characters than those in the braces.  A part that would
begin or end within a character is a flaw of its own kind.
-/
import WalletView.Pattern.Validity
import WalletView.Text.Ascii
import WalletView.Text.Bytes

set_option autoImplicit false

namespace WalletView.LogFilter

/-- What is wrong with a filter. -/
inductive Flaw where
  | malformed
  /-- A part of a directive would begin or end within a character. -/
  | tornCharacter
deriving DecidableEq, Repr

/-! ## Levels and conditions -/

/-- The names of the levels, the most silent first. -/
def levelNames : List String :=
  ["off", "error", "warn", "info", "debug", "trace"]

/-- The digits of a numeral behind the plus sign that it may have. -/
def withoutPlus : List Char → List Char
  | '+' :: digits => digits
  | digits => digits

/-- Whether a text is a numeral for one of the levels. -/
def isLevelNumeral (text : List Char) : Bool :=
  let digits := withoutPlus text
  !digits.isEmpty && digits.all Char.isDigit
    && Nat.ofDigitChars 10 digits 0 < levelNames.length

/-- Whether a text is a level. -/
def isLevel (text : List Char) : Bool :=
  isLevelNumeral text || levelNames.any fun name => Text.matchesAnyCase name (.ofList text)

/-- A numeral without its sign. -/
def withoutSign : List Char → List Char
  | '-' :: digits => digits
  | digits => withoutPlus digits

/-- Whether a text is the power of ten behind a numeral, or nothing. -/
def isPower : List Char → Bool
  | [] => true
  | mark :: power =>
    let digits := withoutSign power
    (mark == 'e' || mark == 'E') && !digits.isEmpty && digits.all Char.isDigit

/-- Whether a text is a number: a decimal numeral, infinity or no number at all. -/
def isNumber (text : List Char) : Bool :=
  let magnitude := withoutSign text
  let (whole, rest) := magnitude.span Char.isDigit
  let (fraction, power) := if rest.head? = some '.' then rest.tail.span Char.isDigit else ([], rest)
  (["inf", "infinity", "nan"].any fun word => Text.matchesAnyCase word (.ofList magnitude))
    || (!(whole.isEmpty && fraction.isEmpty) && isPower power)

/-- Whether a text is a condition on a field. -/
def isCondition (text : List Char) : Bool :=
  match text.splitOn '=' with
  | _ :: value :: _ => isNumber value || Pattern.isValid value
  | _ => !text.isEmpty

/-! ## Directives

Each check is given the directive with the blanks around it, the place of a part, and the text
from that part on without the blanks. -/

/-- A part of a directive. -/
def part (directive : List Char) (start stop : Nat) : Except Flaw (List Char) :=
  match Text.bytesBetween start stop directive with
  | some part => .ok part
  | none => .error .tornCharacter

/-- Checks the level behind `=`. -/
def checkLevel (directive : List Char) (start : Nat) : Except Flaw Unit := do
  let level ← part directive start (Text.byteLength directive)
  if level.isEmpty || isLevel level then .ok () else .error .malformed

/-- Checks what stands behind a span. -/
def checkSpanTail (directive : List Char) (start : Nat) : List Char → Except Flaw Unit
  | [] => .ok ()
  | c :: _ => if c = '=' then checkLevel directive (start + 1) else .error .malformed

/-- Checks a condition and what follows it, from behind its opening brace. -/
def checkCondition (directive : List Char) (start : Nat) (text : List Char) : Except Flaw Unit := do
  let (inside, rest) := text.span (· != '\x7d')
  let stop := start + Text.byteLength inside
  match rest with
  | [] => .error .malformed
  | _ :: tail =>
    if isCondition (← part directive start stop) then
      match tail with
      | ']' :: tail => checkSpanTail directive (stop + 2) tail
      | _ => .error .malformed
    else .error .malformed

/-- Checks a span and what follows it, from behind its opening bracket. -/
def checkSpan (directive : List Char) (start : Nat) (text : List Char) : Except Flaw Unit := do
  let (name, rest) := text.span fun c => c != ']' && c != '\x7b'
  let stop := start + Text.byteLength name
  match rest with
  | [] => .error .malformed
  | c :: tail =>
    let _name ← part directive start stop
    if c = ']' then checkSpanTail directive (stop + 1) tail
    else checkCondition directive (stop + 1) tail

/-- Whether a target or level can begin with a character. -/
def beginsWord (c : Char) : Bool :=
  c = '-' || c = ':' || c = '_' || Text.isLetter c || Text.isNumeral c

/-- Checks a target or level and what follows it. -/
def checkWord (directive text : List Char) : Except Flaw Unit := do
  let (word, rest) := text.span fun c => c != '=' && c != '['
  let stop := Text.byteLength word
  match rest with
  | [] => .ok ()
  | c :: tail =>
    let _target ← part directive 0 stop
    if c = '=' then checkLevel directive (stop + 1) else checkSpan directive (stop + 1) tail

/-- Checks a directive. -/
def checkDirective (directive : List Char) : Except Flaw Unit :=
  match Text.trimmed directive with
  | [] => .error .malformed
  | c :: rest =>
    if c = '[' then checkSpan directive 1 rest
    else if beginsWord c then checkWord directive (c :: rest)
    else .error .malformed

/-- Checks a filter.  The first flaw is given. -/
def check (filter : String) : Except Flaw Unit :=
  (filter.toList.splitOn ',').forM fun directive =>
    if directive.isEmpty then .ok () else checkDirective directive

end WalletView.LogFilter
