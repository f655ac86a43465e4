/-
# Text.Blank — characters that leave room

The blank characters of all scripts: tabs, line ends, and the spaces of every width.
-/

set_option autoImplicit false

namespace WalletView.Text

/-- Whether a character is blank. -/
def isBlank (c : Char) : Bool :=
  c.isWhitespace || c = '\x0b' || c = '\x0c' || c = '\u0085' || c = '\u00a0' || c = '\u1680'
    || ('\u2000' ≤ c && c ≤ '\u200a') || c = '\u2028' || c = '\u2029' || c = '\u202f'
    || c = '\u205f' || c = '\u3000'

/-- A text without the blanks around it. -/
def trimmed (text : List Char) : List Char :=
  ((text.dropWhile isBlank).reverse.dropWhile isBlank).reverse

end WalletView.Text
