/-
# Pattern.Escape — what stands behind a backslash

A backslash takes the meaning from a sign, gives one to a letter, or opens a character given by
its number.  Letters and digits without a meaning, `<`, `>` aside, may not follow it.
-/
import WalletView.Pattern.Flags
import WalletView.Pattern.Scan
import WalletView.Text.Hexadecimal

set_option autoImplicit false

namespace WalletView.Pattern

/-- What a backslash and the signs behind it mean. -/
inductive Escape where
  | literal (l : Literal)
  /-- The digits, the blanks or the characters of words, or what is not among them. -/
  | shorthand (isComplement : Bool)
  /-- A place where a word begins or ends, or does not. -/
  | wordEdge
  /-- The begin or the end of the text. -/
  | textEdge
deriving DecidableEq, Repr

/-- The control character that a letter names. -/
def controlNamed? : Char → Option Char
  | 'a' => some '\x07'
  | 'f' => some '\x0c'
  | 'n' => some '\n'
  | 'r' => some '\r'
  | 't' => some '\t'
  | 'v' => some '\x0b'
  | _ => none

/-- How many digits give the number of a character behind a letter. -/
def digitCount? : Char → Option Nat
  | 'x' => some 2
  | 'u' => some 4
  | 'U' => some 8
  | _ => none

/-- Whether a backslash makes a sign stand for itself. -/
def isSign (c : Char) : Bool :=
  c < '\x80' && !c.isAlphanum && c != '<' && c != '>'

namespace Scan

/-- Reads a number of so many digits behind those already read, whose value is given. -/
def digits (isFree : Bool) : (count value : Nat) → Scan Nat
  | 0, value => return value
  | count + 1, value => do
    gap isFree
    match Text.hexDigit? (← next) with
    | some digit => digits isFree count (value * 16 + digit)
    | none => failure

/-- Reads what stands behind a backslash. -/
def escape (isFree : Bool) : Scan Escape := do
  let c ← next
  match digitCount? c with
  | some count =>
    let value ← digits isFree count 0
    require (decide value.isValidChar)
    return .literal ⟨.ofNat value, c = 'x'⟩
  | none =>
    match controlNamed? c with
    | some control => return .literal ⟨control, false⟩
    | none =>
      if isSign c then return .literal ⟨c, false⟩
      else if c = 'd' ∨ c = 's' ∨ c = 'w' then return .shorthand false
      else if c = 'D' ∨ c = 'S' ∨ c = 'W' then return .shorthand true
      else if c = 'b' ∨ c = 'B' ∨ c = '<' ∨ c = '>' then return .wordEdge
      else if c = 'A' ∨ c = 'z' then return .textEdge
      else failure

end Scan

end WalletView.Pattern
