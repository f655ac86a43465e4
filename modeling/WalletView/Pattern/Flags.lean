/-
# Pattern.Flags — how the signs of a pattern are understood

Three flags decide what a pattern may contain.  By default a pattern works on characters; it can
be told to work on bytes, to pay no regard to case, or to be read in the free style.

Nothing is known here about the characters of the world.  So a pattern on characters cannot pay
no regard to case, and has no shorthands for digits, blanks and words, nor their edges.  A
pattern on bytes has them for ASCII, but must not match a part of a character: it has no
complements, no dot, and no byte beyond ASCII.
-/

set_option autoImplicit false

namespace WalletView.Pattern

/-- How the signs of a pattern are understood. -/
structure Flags where
  ignoresCase : Bool
  isOnBytes : Bool
  isFree : Bool
deriving DecidableEq, Repr

/-- A character that stands for itself. -/
structure Literal where
  value : Char
  /-- Whether it is written as a byte, by two digits. -/
  isByte : Bool
deriving DecidableEq, Repr

namespace Flags

def standard : Flags := ⟨false, false, false⟩

instance : Inhabited Flags := ⟨standard⟩

/-- Whether a character may stand for itself. -/
def allowsLiteral (f : Flags) (l : Literal) : Bool :=
  if f.isOnBytes then !l.isByte || l.value < '\x80' else !f.ignoresCase

/-- Whether a character may stand for itself in a set. -/
def allowsMember (f : Flags) (c : Char) : Bool :=
  if f.isOnBytes then c < '\x80' else !f.ignoresCase

/-- Whether a set with a name, or its complement, may stand in a set. -/
def allowsNamedSet (f : Flags) (isComplement : Bool) : Bool :=
  if f.isOnBytes then !isComplement else !f.ignoresCase

/-- Whether there are shorthands for digits, blanks and words, or for their complements. -/
def allowsShorthand (f : Flags) (isComplement : Bool) : Bool :=
  f.isOnBytes && !isComplement

/-- Whether the edges of words are known. -/
def allowsWordEdge (f : Flags) : Bool :=
  f.isOnBytes

/-- Whether a set may be given by what is not in it. -/
def allowsComplement (f : Flags) : Bool :=
  !f.isOnBytes

/-- Whether the dot may stand for any character. -/
def allowsDot (f : Flags) : Bool :=
  !f.isOnBytes

/-- The letters of the flags; of some it does not matter here what they mean. -/
def letters : List Char :=
  ['i', 'm', 's', 'U', 'u', 'R', 'x']

/-- Whether a text sets flags: no letter stands twice, and a hyphen, behind which flags are
taken back, not at the end. -/
def isSetting (setting : List Char) : Bool :=
  setting.all (fun c => c == '-' || letters.contains c) && decide setting.Nodup
    && setting.getLast? != some '-'

/-- What a setting makes of a flag. -/
def flagAfter (setting : List Char) (letter : Char) (before : Bool) : Bool :=
  if setting.contains letter then (setting.takeWhile (· != '-')).contains letter else before

/-- The flags after a setting.  The letter `u` stands for patterns on characters. -/
def update (f : Flags) (setting : List Char) : Flags where
  ignoresCase := flagAfter setting 'i' f.ignoresCase
  isOnBytes := !flagAfter setting 'u' (!f.isOnBytes)
  isFree := flagAfter setting 'x' f.isFree

end Flags

end WalletView.Pattern
