/-
# Pattern.CharSet — sets of characters in brackets

A set holds characters, ranges, shorthands, sets with names and further sets in brackets.  It can
be given by what is not in it, and sets can be joined by the signs `&&`, `--` and `~~`, the
leftmost first.  Behind its opening bracket, hyphens and then a closing bracket stand for
themselves; so no set is written with nothing in it.

Of a set it is only kept how deep it is nested.
-/
import WalletView.Pattern.Escape

set_option autoImplicit false

namespace WalletView.Pattern

/-- How deep parts are nested that stand side by side: as deep as the only one, or a level deeper
than the deepest. -/
def together : List Nat → Nat
  | [] => 0
  | [n] => n
  | ns => ns.foldl max 0 + 1

/-- A set whose bracket has not been closed. -/
structure OpenSet where
  /-- How deep what stands in front of the last sign between sets is nested. -/
  left : Option Nat
  /-- How deep the parts behind it are nested. -/
  parts : List Nat
deriving DecidableEq, Repr

namespace OpenSet

def add (s : OpenSet) (nesting : Nat) : OpenSet :=
  { s with parts := nesting :: s.parts }

/-- How deep what stands in the brackets is nested. -/
def nesting (s : OpenSet) : Nat :=
  match s.left with
  | none => together s.parts
  | some left => max left (together s.parts) + 1

/-- The set behind a sign between sets. -/
def join (s : OpenSet) : OpenSet :=
  ⟨some s.nesting, []⟩

end OpenSet

/-- The names of sets. -/
def setNames : List String :=
  ["alnum", "alpha", "ascii", "blank", "cntrl", "digit", "graph", "lower", "print", "punct",
    "space", "upper", "word", "xdigit"]

/-- Whether a set with a name is given by what is not in it, and what follows the set, if the
text from behind its bracket is one. -/
def namedSet? : List Char → Option (Bool × List Char)
  | ':' :: text =>
    let isComplement := text.head? == some '^'
    match (if isComplement then text.tail else text).span (· != ':') with
    | (name, ':' :: ']' :: rest) =>
      if setNames.contains (.ofList name) then some (isComplement, rest) else none
    | _ => none
  | _ => none

/-- Whether a range goes on with the text behind its first character.  A hyphen in front of a
closing bracket stands for itself, and two are a sign between sets. -/
def goesOn (isFree : Bool) : List Char → Bool
  | '-' :: text =>
    let seen := if isFree then pastNumberSign (text.dropWhile Text.isBlank) else text
    seen.head? != some ']' && seen.head? != some '-'
  | _ => false
where
  pastNumberSign : List Char → List Char
    | '#' :: text => text.dropWhile Text.isBlank
    | text => text

namespace Scan

/-- Reads the opening of a set, from behind its bracket. -/
def setOpening (f : Flags) : Scan OpenSet := do
  gap f.isFree
  if ← skipWord "^" then
    require f.allowsComplement
    gap f.isFree
  let hyphens ← iterate (fun (n : Nat) => do
    if ← skipWord "-" then
      gap f.isFree
      return .inl (n + 1)
    else return .inr n) 0
  require (hyphens = 0 || f.allowsMember '-')
  if hyphens = 0 then
    if ← skipWord "]" then
      require (f.allowsMember ']')
      return ⟨none, [0]⟩
  return ⟨none, .replicate hyphens 0⟩

/-- Reads a part of a set from behind its first character.  The result is a character that stands
for itself, or nothing for a shorthand. -/
def setPart (f : Flags) (first : Char) : Scan (Option Literal) := do
  if first = '\\' then
    match ← escape f.isFree with
    | .literal l => return some l
    | .shorthand isComplement =>
      require (f.allowsShorthand isComplement)
      return none
    | _ => failure
  else return some ⟨first, false⟩

/-- Reads a character, a range or a shorthand from behind its first character. -/
def setMember (f : Flags) (first : Char) : Scan Unit := do
  let low ← setPart f first
  gap f.isFree
  if goesOn f.isFree (← get) then
    let _hyphen ← next
    gap f.isFree
    match low, ← setPart f (← next) with
    | some low, some high =>
      require (low.value ≤ high.value && f.allowsMember low.value && f.allowsMember high.value)
    | _, _ => failure
  else
    match low with
    | some l => require (f.allowsMember l.value)
    | none => return ()

/-- Reads one part of a set, or its end.  The sets around it, the nearest first, are given too. -/
def setStep (f : Flags) : OpenSet × List OpenSet → Scan ((OpenSet × List OpenSet) ⊕ Nat)
  | (s, around) => do
    gap f.isFree
    let c ← next
    if c = '[' then
      match namedSet? (← get) with
      | some (isComplement, rest) =>
        require (f.allowsNamedSet isComplement)
        set rest
        return .inl (s.add 0, around)
      | none => return .inl (← setOpening f, s :: around)
    else if c = ']' then
      match around with
      | [] => return .inr (s.nesting + 1)
      | outer :: around => return .inl (outer.add (s.nesting + 1), around)
    else if (c = '&' ∨ c = '-' ∨ c = '~') ∧ (← peek) = some c then
      let _again ← next
      return .inl (s.join, around)
    else
      setMember f c
      return .inl (s.add 0, around)

/-- Reads a set from behind its opening bracket and says how deep it is nested. -/
def charSet (f : Flags) : Scan Nat := do
  iterate (setStep f) (← setOpening f, [])

end Scan

end WalletView.Pattern
