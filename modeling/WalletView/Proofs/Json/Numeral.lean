/-
# Proofs.Json.Numeral — an integer is read back from its digits

The integers that are read fit a word, signed or unsigned (`fitsWord_of_readNumber`), and each of
those is read back from its digits (`readNumber_integerText`).  A numeral has no end of its own, so
it is read back where it is *delimited*: nothing follows, or a comma or a closing bracket.
-/
import Mathlib.Algebra.Group.Int.Defs
import Mathlib.Algebra.Group.Nat.Defs
import WalletView.Json.Numeral
import WalletView.Json.Printer

set_option autoImplicit false

namespace WalletView.Json

/-- Nothing follows a value, or what stands between the parts of a bracket. -/
def Delimited (text : List Char) : Prop :=
  ∀ c ∈ text.head?, c = ',' ∨ c = ']' ∨ c = '}'

theorem delimited_nil : Delimited [] :=
  nofun

theorem delimited_cons {c : Char} {text : List Char} (delimiter : c = ',' ∨ c = ']' ∨ c = '}') :
    Delimited (c :: text) := by
  rintro _ ⟨⟩
  exact delimiter

/-- A number's digits end where it is delimited, and no point or power follows. -/
theorem Delimited.takeDigits {text : List Char} (delimited : Delimited text) :
    takeDigits text = ([], text) := by
  cases text with
  | nil => rfl
  | cons c text => rcases delimited c rfl with rfl | rfl | rfl <;> rfl

theorem Delimited.readFraction {text : List Char} (delimited : Delimited text)
    (atEnd : ReadError) : readFraction atEnd text = .ok ([], text) := by
  cases text with
  | nil => rfl
  | cons c text => rcases delimited c rfl with rfl | rfl | rfl <;> rfl

theorem Delimited.readPower {text : List Char} (delimited : Delimited text)
    (atEnd : ReadError) : readPower atEnd text = .ok (none, text) := by
  cases text with
  | nil => rfl
  | cons c text => rcases delimited c rfl with rfl | rfl | rfl <;> rfl

/-! ## Integers that fit a word -/

/-- The integer fits a word, signed or unsigned. -/
def FitsWord (n : Int) : Prop :=
  -2 ^ 63 ≤ n ∧ n < 2 ^ 64

namespace Numeral

theorem wordLimit_eq : wordLimit = 2 ^ 64 := by
  decide

theorem gather_lt {word : Nat} (fits : word < wordLimit) (digits : List Char) :
    (gather word digits).1 < wordLimit := by
  fun_induction gather word digits with
  | case1 => exact fits
  | case2 word digit more next fits' ih => exact ih fits'
  | case3 => exact fits

theorem fitsWord_of_wholeNumber? {negative : Bool} {word : Nat} {value : Int}
    (fits : word < wordLimit) (isNumber : wholeNumber? negative word = some (.integer value)) :
    FitsWord value := by
  have limit := wordLimit_eq
  have half : twoPow 63 = 2 ^ 63 := by decide
  unfold wholeNumber? at isNumber
  split at isNumber
  · split at isNumber
    · simp at isNumber
    · cases isNumber
      constructor <;> omega
  · cases isNumber
    constructor <;> omega

theorem fitsWord_of_number? {n : Numeral} {value : Int}
    (isNumber : n.number? = some (.integer value)) : FitsWord value := by
  have start : 0 < wordLimit := by decide
  have fits := gather_lt start n.whole
  unfold number? at isNumber
  rcases gathered : gather 0 n.whole with ⟨word, beyond⟩
  simp only [gathered] at isNumber fits
  split at isNumber
  · exact fitsWord_of_wholeNumber? fits isNumber
  · simp at isNumber

theorem le_ofDigitChars (digits : List Char) (word : Nat) :
    word ≤ Nat.ofDigitChars 10 digits word := by
  induction digits generalizing word with
  | nil => exact Nat.le_refl _
  | cons digit more ih =>
    rw [Nat.ofDigitChars_cons]
    exact Nat.le_trans (by omega) (ih _)

/-- Digits that together fit a word are all gathered. -/
theorem gather_of_lt {word : Nat} {digits : List Char}
    (fits : Nat.ofDigitChars 10 digits word < wordLimit) :
    gather word digits = (Nat.ofDigitChars 10 digits word, []) := by
  induction digits generalizing word with
  | nil => rfl
  | cons digit more ih =>
    rw [Nat.ofDigitChars_cons] at fits ⊢
    have next : Nat.ofDigitChars 10 [digit] word < wordLimit :=
      Nat.lt_of_le_of_lt (le_ofDigitChars more _) fits
    rw [gather, if_pos next]
    exact ih fits

/-- A numeral of an integer's sign and digits denotes the integer, if that fits a word. -/
theorem number?_integer {n : Int} (fits : FitsWord n) :
    number? ⟨n < 0, Nat.toDigits 10 n.natAbs, [], none⟩ = some (.integer n) := by
  obtain ⟨least, greatest⟩ := fits
  have limit := wordLimit_eq
  have half : twoPow 63 = 2 ^ 63 := by decide
  have gathered : gather 0 (Nat.toDigits 10 n.natAbs) = (n.natAbs, []) := by
    rw [gather_of_lt] <;> rw [Nat.ofDigitChars_ten_toDigits]
    omega
  simp only [number?, gathered, List.isEmpty_nil, Option.isNone_none, Bool.and_self, if_true,
    wholeNumber?]
  by_cases negative : n < 0
  · have inside : ¬ (n.natAbs = 0 ∨ twoPow 63 < n.natAbs) := by omega
    have value : -(n.natAbs : Int) = n := by omega
    simp only [negative, decide_true, if_true, if_neg inside, value]
  · have value : (n.natAbs : Int) = n := by omega
    simp [negative, value]

end Numeral

theorem fitsWord_of_readNumber {text rest : List Char} {value : Int}
    (read : readNumber text = .ok (.integer value, rest)) : FitsWord value := by
  obtain ⟨⟨numeral, last⟩, -, read⟩ := bind_eq_ok.1 read
  dsimp only at read
  split at read
  · rename_i isNumber
    cases read
    exact Numeral.fitsWord_of_number? isNumber
  · cases read

/-! ## Digits -/

theorem takeDigits_append {digits text : List Char} (isDigits : ∀ c ∈ digits, c.isDigit = true)
    (delimited : Delimited text) : takeDigits (digits ++ text) = (digits, text) := by
  have none := Prod.mk.inj delimited.takeDigits
  rw [takeDigits, List.takeWhile_append_of_pos isDigits, List.dropWhile_append_of_pos isDigits,
    none.1, none.2, List.append_nil]

theorem toDigits_eq_cons (m : Nat) :
    ∃ c more, Nat.toDigits 10 m = c :: more ∧ c.isDigit = true := by
  cases front : Nat.toDigits 10 m with
  | nil => exact absurd front Nat.toDigits_ne_nil
  | cons c more =>
    have member : c ∈ Nat.toDigits 10 m := front ▸ List.mem_cons_self
    exact ⟨c, more, rfl, Nat.isDigit_of_mem_toDigits (by decide) (by decide) member⟩

/-- Only zero has a zero in front. -/
theorem head?_toDigits_ne_zero {m : Nat} (positive : 0 < m) :
    (Nat.toDigits 10 m).head? ≠ some '0' := by
  induction m using Nat.strongRecOn with
  | _ m ih =>
    by_cases small : m < 10
    · have one : ∀ d < 10, 0 < d → [Nat.digitChar d].head? ≠ some '0' := by decide
      rw [Nat.toDigits_of_lt_base small]
      exact one m small positive
    · have first := ih (m / 10) (by omega) (by omega)
      rw [Nat.toDigits_of_base_le (by decide) (by omega)]
      obtain ⟨c, more, front, -⟩ := toDigits_eq_cons (m / 10)
      rw [front] at first ⊢
      exact first

theorem readWhole_toDigits (m : Nat) {text : List Char} (delimited : Delimited text)
    (atEnd : ReadError) :
    readWhole atEnd (Nat.toDigits 10 m ++ text) = .ok (Nat.toDigits 10 m, text) := by
  by_cases zero : m = 0
  · subst zero
    simp [Nat.toDigits_zero, readWhole, delimited.takeDigits]
  · have isDigits (c : Char) (member : c ∈ Nat.toDigits 10 m) : c.isDigit = true :=
      Nat.isDigit_of_mem_toDigits (by decide) (by decide) member
    have first := head?_toDigits_ne_zero (Nat.pos_of_ne_zero zero)
    have taken := takeDigits_append isDigits delimited
    obtain ⟨c, more, front, -⟩ := toDigits_eq_cons m
    rw [front] at first taken ⊢
    have notZero : c ≠ '0' := fun same => first (same ▸ rfl)
    rw [List.cons_append] at taken ⊢
    simp [readWhole, notZero, readDigits, taken]

/-- **An integer that fits a word is read back from its digits.** -/
theorem readNumber_integerText {n : Int} (fits : FitsWord n) {text : List Char}
    (delimited : Delimited text) :
    readNumber (Number.integerText n ++ text) = .ok (.integer n, text) := by
  have unsigned : readUnsigned (.ended .value) (n < 0) (Nat.toDigits 10 n.natAbs ++ text) =
      .ok (⟨n < 0, Nat.toDigits 10 n.natAbs, [], none⟩, text) := by
    rw [readUnsigned, readWhole_toDigits _ delimited]
    simp only [Except.bind, delimited.readFraction, delimited.readPower]
    rfl
  have read : readNumeral (.ended .value) (Number.integerText n ++ text) =
      .ok (⟨n < 0, Nat.toDigits 10 n.natAbs, [], none⟩, text) := by
    unfold Number.integerText
    by_cases negative : n < 0
    · simpa [negative, readNumeral] using unsigned
    · obtain ⟨c, more, front, isDigit⟩ := toDigits_eq_cons n.natAbs
      rw [if_neg negative, readNumeral]
      · simpa [negative] using unsigned
      · intro rest sign
        rw [front] at sign
        cases sign
        exact absurd isDigit (by decide)
  rw [readNumber, read]
  simp only [Except.bind, Numeral.number?_integer fits]

end WalletView.Json
