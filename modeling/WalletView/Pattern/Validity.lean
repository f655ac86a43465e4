/-
# Pattern.Validity — which texts are patterns

A pattern is made of characters that stand for themselves, sets, dots, places and groups.  Each
part can be followed by a sign for its repetition, and patterns can be alternatives of each
other.  A group can have a name of its own or flags of its own; flags alone in parentheses hold
to the end of the group around them.

A pattern stands in a condition, which ends at the first closing brace.  So a pattern has no use
for braces: an opening brace only stands in a set, in a comment or behind a backslash.
-/
import WalletView.Pattern.CharSet
import WalletView.Text.Letter
import WalletView.Text.Numeral

set_option autoImplicit false

namespace WalletView.Pattern

/-- A part of a pattern. -/
structure Part where
  nesting : Nat
  isRepeatable : Bool
deriving DecidableEq, Repr

/-- A group whose parenthesis has not been closed, or a whole pattern. -/
structure Group where
  /-- The flags that hold for what comes next. -/
  flags : Flags
  /-- How deep the alternatives in front of the last bar are nested. -/
  alternatives : List Nat
  /-- The parts behind that bar, the last one first. -/
  parts : List Part
deriving DecidableEq, Repr

namespace Group

/-- A group of which nothing has been read. -/
def start (f : Flags) : Group := ⟨f, [], []⟩

instance : Inhabited Group := ⟨start .standard⟩

def add (g : Group) (part : Part) : Group :=
  { g with parts := part :: g.parts }

/-- How deep the alternative behind the last bar is nested. -/
def lastNesting (g : Group) : Nat :=
  together (g.parts.map Part.nesting)

/-- How deep what stands in the group is nested. -/
def nesting (g : Group) : Nat :=
  together (g.lastNesting :: g.alternatives)

/-- The group behind a bar. -/
def startAlternative (g : Group) : Group :=
  { g with alternatives := g.lastNesting :: g.alternatives, parts := [] }

/-- The group with its last part repeated. -/
def repeatLast? (g : Group) : Option Group :=
  match g.parts with
  | ⟨nesting, true⟩ :: parts => some { g with parts := ⟨nesting + 1, true⟩ :: parts }
  | _ => none

end Group

/-- What has been read of a pattern. -/
structure Progress where
  group : Group
  /-- The groups around it, the nearest first. -/
  around : List Group
  /-- The names of groups. -/
  names : List (List Char)
deriving DecidableEq, Repr

namespace Progress

def start : Progress := ⟨.start .standard, [], []⟩

instance : Inhabited Progress := ⟨start⟩

/-- Adds a part to the group. -/
def add (p : Progress) (part : Part) : Progress :=
  { p with group := p.group.add part }

/-- Opens a group. -/
def enter (p : Progress) (f : Flags) : Progress :=
  { p with group := .start f, around := p.group :: p.around }

/-- Closes the group, if it is one and not the whole pattern. -/
def leave? (p : Progress) : Option Progress :=
  match p.around with
  | [] => none
  | outer :: around =>
    some { p with group := outer.add ⟨p.group.nesting + 1, true⟩, around }

end Progress

/-- Whether a text names a group. -/
def isGroupName : List Char → Bool
  | [] => false
  | first :: more =>
    (first == '_' || Text.isLetter first) && more.all fun c =>
      c == '_' || c == '.' || c == '[' || c == ']' || Text.isLetter c || Text.isNumeral c

namespace Scan

/-- Reads the name of a group up to and with the sign behind it. -/
def groupName (p : Progress) : Scan Progress := do
  let name ← takeWhile (· != '>')
  let _close ← next
  require (isGroupName name && !p.names.contains name)
  return { p.enter p.group.flags with names := name :: p.names }

/-- Reads the head of a group, or flags in parentheses, from behind the parenthesis. -/
def groupHead (p : Progress) : Scan Progress := do
  let f := p.group.flags
  gap f.isFree
  if ← skipWord "?P<" then groupName p
  else if ← skipWord "?<" then groupName p
  else if ← skipWord "?" then
    let setting ← takeWhile fun c => c != ':' && c != ')'
    require (Flags.isSetting setting)
    let group := { p.group with flags := f.update setting }
    if (← next) = ')' then
      require !setting.isEmpty
      return { p with group := group.add ⟨0, false⟩ }
    else return p.enter group.flags
  else return p.enter f

/-- Reads one part of a pattern, or its end. -/
def patternStep (p : Progress) : Scan (Progress ⊕ Progress) := do
  let f := p.group.flags
  let single : Progress := p.add ⟨0, true⟩
  gap f.isFree
  if (← peek).isNone then return .inr p
  let c ← next
  if c = '(' then return .inl (← groupHead p)
  else if c = ')' then return .inl (← p.leave?)
  else if c = '|' then return .inl { p with group := p.group.startAlternative }
  else if c = '?' ∨ c = '*' ∨ c = '+' then
    let group ← p.group.repeatLast?
    let _isLazy ← skipWord "?"
    return .inl { p with group }
  else if c = '[' then return .inl (p.add ⟨← charSet f, true⟩)
  else if c = '\\' then
    match ← escape f.isFree with
    | .literal l => require (f.allowsLiteral l)
    | .shorthand isComplement => require (f.allowsShorthand isComplement)
    | .wordEdge => require f.allowsWordEdge
    | .textEdge => pure ()
    return .inl single
  else
    require <|
      if c = '.' then f.allowsDot
      else if c = '^' ∨ c = '$' then true
      else c != '\x7b' && f.allowsLiteral ⟨c, false⟩
    return .inl single

/-- Reads a whole pattern. -/
def pattern : Scan Progress :=
  iterate patternStep .start

end Scan

/-- How deep a pattern may be nested. -/
def greatestNesting : Nat := 250

/-- Whether a text is a pattern. -/
def isValid (text : List Char) : Bool :=
  match Scan.pattern text with
  | some (p, _) => p.around.isEmpty && p.group.nesting ≤ greatestNesting
  | none => false

end WalletView.Pattern
