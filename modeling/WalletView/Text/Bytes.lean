/-
# Text.Bytes — places in a text counted in bytes

A character takes up one to four bytes.  A place counted in bytes is good for cutting only if
it does not lie within a character.
-/

set_option autoImplicit false

namespace WalletView.Text

/-- How many bytes a text takes up. -/
def byteLength (text : List Char) : Nat :=
  (String.ofList text).utf8ByteSize

/-- A text without its first `n` bytes, if they are whole characters. -/
def dropBytes : (n : Nat) → List Char → Option (List Char)
  | 0, text => some text
  | _ + 1, [] => none
  | n + 1, c :: text =>
    if c.utf8Size ≤ n + 1 then dropBytes (n + 1 - c.utf8Size) text else none

/-- The first `n` bytes of a text, if they are whole characters. -/
def takeBytes : (n : Nat) → List Char → Option (List Char)
  | 0, _ => some []
  | _ + 1, [] => none
  | n + 1, c :: text =>
    if c.utf8Size ≤ n + 1 then (takeBytes (n + 1 - c.utf8Size) text).map (c :: ·) else none

/-- The bytes of a text from one place to another, if they are whole characters. -/
def bytesBetween (start stop : Nat) (text : List Char) : Option (List Char) :=
  (dropBytes start text).bind (takeBytes (stop - start))

end WalletView.Text
