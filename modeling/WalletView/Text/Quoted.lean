/-
# Text.Quoted — a text between quotes, readable on one line

A quoted text names every character a reader could mistake: the quote and the backslash stand
behind a backslash, the common controls have letters, and any other character with no form of
its own is given by its code point in braces.  All else stands for itself.
-/
import WalletView.Text.Invisible

set_option autoImplicit false

namespace WalletView.Text

/-- Whether a character is named by its code point. -/
def isNumbered (c : Char) : Bool :=
  c < ' ' || (127 ≤ c.toNat && isInvisible c)

/-- A character as it stands in a quoted text. -/
def quotedChar (c : Char) : List Char :=
  if c = '\x00' then ['\\', '0']
  else if c = '\t' then ['\\', 't']
  else if c = '\r' then ['\\', 'r']
  else if c = '\n' then ['\\', 'n']
  else if c = '\\' then ['\\', '\\']
  else if c = '"' then ['\\', '"']
  else if isNumbered c then '\\' :: 'u' :: '{' :: Nat.toDigits 16 c.toNat ++ ['}']
  else [c]

/-- A text between quotes. -/
def quoted (s : String) : String :=
  .ofList ('"' :: s.toList.flatMap quotedChar ++ ['"'])

end WalletView.Text
