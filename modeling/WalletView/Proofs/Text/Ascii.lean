/-
# Proofs.Text.Ascii — which texts match whatever their case

Only characters of ASCII have another case: making a character small leaves every other one as it
is, and gives none of the others (`toLower_eq_self`, `toNat_toLower_lt`).  So two texts match when
they have as many characters and, one by one, each is the other or the other case of its letter.
-/
import Mathlib.Data.List.Forall2
import WalletView.Text.Ascii

set_option autoImplicit false

namespace WalletView.Text

/-- Two characters are one, or one letter of ASCII in both its cases. -/
def SameButForCase (c d : Char) : Prop :=
  c = d ∨ c.toNat < 128 ∧ d.toNat < 128 ∧ c.toLower = d.toLower

theorem toLower_eq_self {c : Char} (beyond : 128 ≤ c.toNat) : c.toLower = c := by
  have number : c.val.toNat = c.toNat := rfl
  unfold Char.toLower
  split
  · rename_i isCapital
    have below : c.val.toNat ≤ 90 := isCapital.2
    omega
  · rfl

theorem toNat_toLower_lt {c : Char} (isAscii : c.toNat < 128) : c.toLower.toNat < 128 := by
  unfold Char.toLower
  split
  · rename_i isCapital
    have below : c.val.toNat ≤ 90 := isCapital.2
    have distance : ('a'.val - 'A'.val).toNat = 32 := rfl
    show (c.val + ('a'.val - 'A'.val)).toNat < 128
    rw [UInt32.toNat_add, distance]
    omega
  · exact isAscii

theorem toLower_eq_iff (c d : Char) : c.toLower = d.toLower ↔ SameButForCase c d := by
  constructor
  · intro same
    by_cases asciiC : c.toNat < 128
    · by_cases asciiD : d.toNat < 128
      · exact .inr ⟨asciiC, asciiD, same⟩
      · rw [toLower_eq_self (Nat.le_of_not_lt asciiD)] at same
        exact absurd (same ▸ toNat_toLower_lt asciiC) asciiD
    · rw [toLower_eq_self (Nat.le_of_not_lt asciiC)] at same
      by_cases asciiD : d.toNat < 128
      · exact absurd (same ▸ toNat_toLower_lt asciiD) asciiC
      · rw [toLower_eq_self (Nat.le_of_not_lt asciiD)] at same
        exact .inl same
  · rintro (rfl | ⟨-, -, same⟩)
    · rfl
    · exact same

/-- **Texts match when their characters do, one by one.** -/
theorem matchesAnyCase_iff_forall₂ {a b : String} :
    matchesAnyCase a b = true ↔ List.Forall₂ SameButForCase a.toList b.toList := by
  rw [matchesAnyCase_iff, fold, fold, ← List.forall₂_eq_eq_eq, List.forall₂_map_left_iff,
    List.forall₂_map_right_iff]
  simp only [toLower_eq_iff]

end WalletView.Text
