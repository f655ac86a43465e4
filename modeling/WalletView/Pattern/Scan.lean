/-
# Pattern.Scan — reading a pattern from left to right

A scan takes something off the front of a text or fails; why it fails is of no use to anyone.
In the free style, blanks stand between the signs of a pattern and mean nothing, and so do
comments, which run from `#` to the end of the line.
-/
import WalletView.Text.Blank

set_option autoImplicit false

namespace WalletView.Pattern

/-- A way to read something off the front of a text. -/
abbrev Scan := StateT (List Char) Option

namespace Scan

/-- Reads one character. -/
def next : Scan Char
  | [] => none
  | c :: rest => some (c, rest)

/-- The next character, which is not read; nothing at the end of the text. -/
def peek : Scan (Option Char) :=
  return (← get).head?

/-- Fails unless a condition holds. -/
def require (condition : Bool) : Scan Unit :=
  if condition then pure () else failure

/-- Reads a word if it comes next, and says whether it did. -/
def skipWord (word : String) : Scan Bool := do
  let text ← get
  if word.toList.isPrefixOf text then
    set (text.drop word.length)
    return true
  else return false

/-- Reads the characters in front of the first that fails a test. -/
def takeWhile (p : Char → Bool) : Scan (List Char) := do
  let (front, rest) := (← get).span p
  set rest
  return front

/-- Repeats a step, which says how to go on or what came of it; one that neither ends the
reading nor reads anything fails. -/
def iterate {σ α : Type} (step : σ → Scan (σ ⊕ α)) (s : σ) (text : List Char) :
    Option (α × List Char) :=
  match step s text with
  | none => none
  | some (.inr a, rest) => some (a, rest)
  | some (.inl s, rest) => if rest.length < text.length then iterate step s rest else none
termination_by text.length

/-- A text without the blanks and comments in front of it. -/
def withoutGap : (inComment : Bool) → List Char → List Char
  | _, [] => []
  | true, c :: text => withoutGap (c != '\n') text
  | false, c :: text =>
    if Text.isBlank c then withoutGap false text
    else if c = '#' then withoutGap true text
    else c :: text

/-- Passes over what means nothing in the free style. -/
def gap (isFree : Bool) : Scan Unit :=
  if isFree then modify (withoutGap false) else pure ()

end Scan

end WalletView.Pattern
