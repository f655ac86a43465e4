/-
# Proofs.Json.Natural — a natural number that is cut off

What is read as an unsigned word is written in digits alone, without sign, fraction and power.  Cut
off anywhere, its digits are those of a smaller number, so they are still read as a word
(`wordOf_formOnly_of_extended`): not as a number that is negative or a double.
-/
import WalletView.Json.Reader
import WalletView.Proofs.Json.Numeral
import WalletView.Proofs.Json.Steady

set_option autoImplicit false

namespace WalletView.Json

namespace Numeral

/-- Digits that were all gathered fit a word together. -/
theorem ofDigitChars_of_gather {word total : Nat} {digits : List Char} (fits : word < wordLimit)
    (gathered : gather word digits = (total, [])) :
    Nat.ofDigitChars 10 digits word = total ∧ total < wordLimit := by
  induction digits generalizing word with
  | nil =>
    cases gathered
    exact ⟨rfl, fits⟩
  | cons digit more ih =>
    rw [gather] at gathered
    by_cases next : Nat.ofDigitChars 10 [digit] word < wordLimit
    · rw [if_pos next] at gathered
      rw [Nat.ofDigitChars_cons]
      exact ih next gathered
    · rw [if_neg next] at gathered
      cases gathered

/-- A natural number is written without sign, fraction and power, and fits a word. -/
theorem of_number?_natural {n : Numeral} {value : Nat} (isNumber : n.number? = some (.integer value)) :
    n.negative = false ∧ n.fraction = [] ∧ n.power = none ∧
      Nat.ofDigitChars 10 n.whole 0 < wordLimit := by
  have start : 0 < wordLimit := by decide
  unfold number? at isNumber
  rcases gathered : gather 0 n.whole with ⟨word, beyond⟩
  simp only [gathered] at isNumber
  split at isNumber
  · rename_i isWhole
    simp only [Bool.and_eq_true, List.isEmpty_iff, Option.isNone_iff_eq_none] at isWhole
    obtain ⟨⟨noFraction, noPower⟩, rfl⟩ := isWhole
    obtain ⟨same, fits⟩ := ofDigitChars_of_gather start gathered
    refine ⟨?_, noFraction, noPower, same ▸ fits⟩
    unfold wholeNumber? at isNumber
    split at isNumber
    · split at isNumber
      · simp at isNumber
      · rename_i inside
        simp only [Option.some.injEq, Number.integer.injEq] at isNumber
        omega
    · rename_i positive
      exact Bool.eq_false_iff.2 positive
  · simp at isNumber

theorem number?_of_digits {digits : List Char}
    (fits : Nat.ofDigitChars 10 digits 0 < wordLimit) :
    number? ⟨false, digits, [], none⟩ = some (.integer (Nat.ofDigitChars 10 digits 0 : Nat)) := by
  simp [number?, gather_of_lt fits, wholeNumber?]

end Numeral

/-- What writes a natural number are its digits. -/
theorem IsNumeral.eq_whole {written : List Char} {n : Numeral} (isNumeral : IsNumeral written n)
    (positive : n.negative = false) (noFraction : n.fraction = []) (noPower : n.power = none) :
    written = n.whole ∧ IsWhole n.whole := by
  cases isNumeral with
  | positive isUnsigned =>
    obtain ⟨isWhole, isFraction, isPower⟩ := isUnsigned
    cases isFraction with
    | none =>
      cases isPower with
      | none => exact ⟨by simp, isWhole⟩
      | power _ _ _ => cases noPower
    | point isDigits => exact absurd noFraction isDigits.notEmpty
  | negative isUnsigned =>
    obtain ⟨_, _, _⟩ := isUnsigned
    cases positive

theorem IsWhole.all {whole : List Char} (isWhole : IsWhole whole) :
    ∀ c ∈ whole, c.isDigit = true := by
  cases isWhole with
  | zero => exact List.forall_mem_singleton.2 rfl
  | positive isDigits _ => exact isDigits.all

/-- Digits write a natural number. -/
theorem IsNumeral.eq_of_digits {written : List Char} {n : Numeral} (isNumeral : IsNumeral written n)
    (isDigits : ∀ c ∈ written, c.isDigit = true) : n = ⟨false, written, [], none⟩ := by
  cases isNumeral with
  | positive isUnsigned =>
    obtain ⟨isWhole, isFraction, isPower⟩ := isUnsigned
    cases isFraction with
    | none =>
      cases isPower with
      | none => simp
      | power isE _ _ =>
        have isDigit := isDigits _ (List.mem_append_right _ List.mem_cons_self)
        rw [(isE_notDigit isE).1] at isDigit
        cases isDigit
    | point _ =>
      have isDigit := isDigits '.' (List.mem_append_right _ List.mem_cons_self)
      exact absurd isDigit (by decide)
  | negative _ => exact absurd (isDigits '-' List.mem_cons_self) (by decide)

theorem exists_of_wordOf {value : Number} {w : UInt64} (isWord : Reader.wordOf value = .ok w) :
    ∃ m : Nat, value = .integer m := by
  cases value with
  | double x => cases isWord
  | integer n =>
    rw [Reader.wordOf] at isWord
    split at isWord
    · cases isWord
    · rename_i notNegative
      exact ⟨n.toNat, congrArg _ (Int.toNat_of_nonneg (Int.not_lt.1 notNegative)).symm⟩

theorem wordOf_formOnly (m : Nat) : FormOnly (Reader.wordOf (.integer m)) := by
  have notNegative : ¬ (m : Int) < 0 := Int.not_lt.2 (Int.natCast_nonneg m)
  rw [Reader.wordOf, if_neg notNegative]
  exact formOnly_ok _

/-- **What a number is read as that goes on to be a word has the shape of a word already.** -/
theorem wordOf_formOnly_of_extended {text more rest : List Char} {value value' : Number} {w : UInt64}
    (here : readNumber text = .ok (value, []))
    (extended : readNumber (text ++ more) = .ok (value', rest))
    (isWord : Reader.wordOf value' = .ok w) : FormOnly (Reader.wordOf value) := by
  obtain ⟨written, n, isText, isNumeral, -, isValue⟩ := readNumber_eq_ok_iff.1 here
  obtain ⟨written', n', isText', isNumeral', ends', isValue'⟩ := readNumber_eq_ok_iff.1 extended
  rw [List.append_nil] at isText
  subst isText
  obtain ⟨m, rfl⟩ := exists_of_wordOf isWord
  obtain ⟨positive, noFraction, noPower, fits⟩ := Numeral.of_number?_natural isValue'
  obtain ⟨rfl, isWhole⟩ := isNumeral'.eq_whole positive noFraction noPower
  -- Either the text ends within the digits, or behind all of them.
  rcases List.append_eq_append_iff.1 isText' with ⟨digits, isDigits, -⟩ | ⟨digits, isDigits, isRest⟩
  · rw [isDigits] at isWhole fits
    have digitsOnly : ∀ c ∈ text, c.isDigit = true := fun c member =>
      isWhole.all c (List.mem_append_left digits member)
    have smaller : Nat.ofDigitChars 10 text 0 < Numeral.wordLimit := by
      rw [Nat.ofDigitChars_append] at fits
      exact Nat.lt_of_le_of_lt (Numeral.le_ofDigitChars digits _) fits
    rw [isNumeral.eq_of_digits digitsOnly, Numeral.number?_of_digits smaller] at isValue
    cases isValue
    exact wordOf_formOnly _
  · rw [isRest] at extended
    have same := readNumber_steady.cut extended
    rw [here] at same
    cases same
    exact wordOf_formOnly m

end WalletView.Json
