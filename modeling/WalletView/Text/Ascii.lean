/-
# Text.Ascii — letters compared whatever their case

Hex addresses, log levels and on/off switches are compared without regard to the case of
the letters `A` to `Z`.  Every other character, accented or not, stays distinct.  Folding a
text to small letters gives each class one member, so matching is equality of folded texts
and hence an equivalence.
-/

set_option autoImplicit false

namespace WalletView.Text

/-- The characters of a text with every ASCII capital made small. -/
def fold (s : String) : List Char :=
  s.toList.map Char.toLower

/-- Two texts match when they differ at most in the case of ASCII letters. -/
def matchesAnyCase (a b : String) : Bool :=
  fold a == fold b

theorem matchesAnyCase_iff {a b : String} : matchesAnyCase a b = true ↔ fold a = fold b := by
  simp [matchesAnyCase]

@[simp] theorem matchesAnyCase_refl (a : String) : matchesAnyCase a a = true := by
  simp [matchesAnyCase]

/-- A text whose first letter is a capital. -/
def capitalized (s : String) : String :=
  match s.toList with
  | [] => ""
  | first :: more => .ofList (first.toUpper :: more)

end WalletView.Text
