/-
# Json.Printer — JSON values as text

Two layouts.  `Json.print` is compact: no blank outside strings.  `Json.pretty` gives every
item and member a line of its own, two blanks deeper than what holds it.  A string escapes the
quote, the backslash and the control characters below U+0020, these by their short form where
they have one; every other character stands for itself.
-/
import WalletView.Json.Basic
import WalletView.Number.Shortest

set_option autoImplicit false

namespace WalletView

/-- The digits of an integer, the sign in front of a negative one. -/
def Number.integerText (n : Int) : List Char :=
  if n < 0 then '-' :: Nat.toDigits 10 n.natAbs else Nat.toDigits 10 n.natAbs

def Number.text : Number → List Char
  | .integer n => integerText n
  | .double x => x.text

namespace Json

/-- A character as it stands inside a string. -/
def escape (c : Char) : List Char :=
  if c = '"' then ['\\', '"']
  else if c = '\\' then ['\\', '\\']
  else if c = '\x08' then ['\\', 'b']
  else if c = '\t' then ['\\', 't']
  else if c = '\n' then ['\\', 'n']
  else if c = '\x0c' then ['\\', 'f']
  else if c = '\r' then ['\\', 'r']
  else if c < ' ' then
    ['\\', 'u', '0', '0', Nat.digitChar (c.toNat / 16), Nat.digitChar (c.toNat % 16)]
  else [c]

/-- A string between its quotes. -/
def quote (s : String) : List Char :=
  '"' :: s.toList.flatMap escape ++ ['"']

def boolText (b : Bool) : List Char :=
  if b then ['t', 'r', 'u', 'e'] else ['f', 'a', 'l', 's', 'e']

def nullText : List Char :=
  ['n', 'u', 'l', 'l']

mutual

/-- The compact text of a value. -/
def print : Json → List Char
  | .null => nullText
  | .bool b => boolText b
  | .number n => n.text
  | .string s => quote s
  | .array items => '[' :: printItems items
  | .object members => '{' :: printMembers members

/-- The items of an array up to and with its closing bracket. -/
def printItems : List Json → List Char
  | [] => [']']
  | item :: more => item.print ++ printMoreItems more

def printMoreItems : List Json → List Char
  | [] => [']']
  | item :: more => ',' :: item.print ++ printMoreItems more

/-- The members of an object up to and with its closing brace. -/
def printMembers : List (String × Json) → List Char
  | [] => ['}']
  | (key, value) :: more => quote key ++ ':' :: value.print ++ printMoreMembers more

def printMoreMembers : List (String × Json) → List Char
  | [] => ['}']
  | (key, value) :: more => ',' :: quote key ++ ':' :: value.print ++ printMoreMembers more

end

/-- A line break and the blanks before a part at the given depth. -/
def newLine (depth : Nat) : List Char :=
  '\n' :: List.replicate (2 * depth) ' '

mutual

/-- The text of a value on lines of its own, itself standing at the given depth. -/
def prettyAt (depth : Nat) : Json → List Char
  | .array [] => ['[', ']']
  | .array (item :: more) =>
    '[' :: newLine (depth + 1) ++ item.prettyAt (depth + 1) ++ prettyItems depth more
  | .object [] => ['{', '}']
  | .object ((key, value) :: more) =>
    '{' :: newLine (depth + 1) ++ quote key ++ ':' :: ' ' :: value.prettyAt (depth + 1)
      ++ prettyMembers depth more
  | .null => nullText
  | .bool b => boolText b
  | .number n => n.text
  | .string s => quote s

def prettyItems (depth : Nat) : List Json → List Char
  | [] => newLine depth ++ [']']
  | item :: more =>
    ',' :: newLine (depth + 1) ++ item.prettyAt (depth + 1) ++ prettyItems depth more

def prettyMembers (depth : Nat) : List (String × Json) → List Char
  | [] => newLine depth ++ ['}']
  | (key, value) :: more =>
    ',' :: newLine (depth + 1) ++ quote key ++ ':' :: ' ' :: value.prettyAt (depth + 1)
      ++ prettyMembers depth more

end

/-- The compact text of a value. -/
def compact (j : Json) : String :=
  .ofList j.print

/-- The text of a value over several lines. -/
def pretty (j : Json) : String :=
  .ofList (j.prettyAt 0)

end Json

end WalletView
