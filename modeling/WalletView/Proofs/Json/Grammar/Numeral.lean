/-
# Proofs.Json.Grammar.Numeral — which texts are numbers

The grammar of numbers, part by part: whole digits, a fraction, a power of ten, and the numeral that
they make up with a sign (`IsNumeral`).  A numeral has no end of its own, so it is read from what
writes it just if what follows does not belong to it (`NumeralEnds`, `readNumeral_eq_ok_iff`).  What
problem is named where the text ends does not matter to what is read, so a number that is read is
passed over alike (`passNumber_of_readNumber`).
-/
import Mathlib.Data.List.TakeWhile
import WalletView.Json.Numeral

set_option autoImplicit false

namespace WalletView.Json

/-! ## The parts of a numeral -/

/-- At least one digit, and nothing else. -/
structure IsDigits (digits : List Char) : Prop where
  notEmpty : digits ≠ []
  all : ∀ c ∈ digits, c.isDigit = true

/-- Digits without a needless zero in front. -/
inductive IsWhole : List Char → Prop where
  | zero : IsWhole ['0']
  | positive {digits : List Char} (isDigits : IsDigits digits)
      (notZero : digits.head? ≠ some '0') : IsWhole digits

/-- How a fraction is written, and its digits. -/
inductive IsFraction : List Char → List Char → Prop where
  | none : IsFraction [] []
  | point {digits : List Char} (isDigits : IsDigits digits) : IsFraction ('.' :: digits) digits

/-- How a sign may be written in front of a power of ten, and whether it is negative. -/
inductive IsSign : List Char → Bool → Prop where
  | none : IsSign [] false
  | plus : IsSign ['+'] false
  | minus : IsSign ['-'] true

/-- How a power of ten is written, and its sign and digits. -/
inductive IsPower : List Char → Option (Bool × List Char) → Prop where
  | none : IsPower [] none
  | power {e : Char} {sign digits : List Char} {negative : Bool} (isE : e = 'e' ∨ e = 'E')
      (isSign : IsSign sign negative) (isDigits : IsDigits digits) :
      IsPower (e :: (sign ++ digits)) (some (negative, digits))

/-- How a numeral is written behind its sign. -/
inductive IsUnsigned (negative : Bool) : List Char → Numeral → Prop where
  | parts {whole fractionText fraction powerText : List Char} {power : Option (Bool × List Char)}
      (isWhole : IsWhole whole) (isFraction : IsFraction fractionText fraction)
      (isPower : IsPower powerText power) :
      IsUnsigned negative (whole ++ (fractionText ++ powerText))
        { negative, whole, fraction, power }

/-- How a numeral is written. -/
inductive IsNumeral : List Char → Numeral → Prop where
  | positive {text : List Char} {n : Numeral} (isUnsigned : IsUnsigned false text n) :
      IsNumeral text n
  | negative {text : List Char} {n : Numeral} (isUnsigned : IsUnsigned true text n) :
      IsNumeral ('-' :: text) n

theorem IsDigits.exists_cons {digits : List Char} (isDigits : IsDigits digits) :
    ∃ c more, digits = c :: more ∧ c.isDigit = true := by
  cases digits with
  | nil => exact absurd rfl isDigits.notEmpty
  | cons c more => exact ⟨c, more, rfl, isDigits.all c List.mem_cons_self⟩

theorem IsWhole.exists_cons {whole : List Char} (isWhole : IsWhole whole) :
    ∃ c more, whole = c :: more ∧ c.isDigit = true := by
  cases isWhole with
  | zero => exact ⟨'0', [], rfl, rfl⟩
  | positive isDigits _ => exact isDigits.exists_cons

/-- No digit comes next. -/
def NoDigit (text : List Char) : Prop :=
  ∀ c ∈ text.head?, c.isDigit = false

theorem takeDigits_eq_iff {text digits rest : List Char} :
    takeDigits text = (digits, rest) ↔
      text = digits ++ rest ∧ (∀ c ∈ digits, c.isDigit = true) ∧ NoDigit rest := by
  constructor
  · intro taken
    obtain ⟨rfl, rfl⟩ := Prod.mk.inj taken
    refine ⟨List.takeWhile_append_dropWhile.symm, fun c => List.mem_takeWhile_imp, ?_⟩
    intro c isFront
    have noDigit := List.head?_dropWhile_not Char.isDigit text
    rw [Option.mem_def.1 isFront] at noDigit
    exact noDigit
  · rintro ⟨rfl, all, noDigit⟩
    have none : takeDigits rest = ([], rest) := by
      cases rest with
      | nil => rfl
      | cons c rest => simp [takeDigits, noDigit c rfl]
    obtain ⟨isNil, isRest⟩ := Prod.mk.inj none
    rw [takeDigits, List.takeWhile_append_of_pos all, List.dropWhile_append_of_pos all, isNil,
      isRest, List.append_nil]

theorem readDigits_eq_ok_iff {atEnd : ReadError} {text digits rest : List Char} :
    readDigits atEnd text = .ok (digits, rest) ↔
      text = digits ++ rest ∧ IsDigits digits ∧ NoDigit rest := by
  constructor
  · intro read
    unfold readDigits at read
    split at read
    · cases read
    · cases read
    · rename_i notNil _ taken
      cases read
      obtain ⟨isText, all, noDigit⟩ := takeDigits_eq_iff.1 taken
      exact ⟨isText, ⟨notNil, all⟩, noDigit⟩
  · rintro ⟨rfl, isDigits, noDigit⟩
    have taken := takeDigits_eq_iff.2 ⟨rfl, isDigits.all, noDigit⟩
    obtain ⟨c, more, rfl, -⟩ := isDigits.exists_cons
    rw [List.cons_append] at taken ⊢
    simp only [readDigits, taken]

theorem noDigit_iff {text : List Char} : NoDigit text ↔ (takeDigits text).1 = [] := by
  cases text with
  | nil => simp [NoDigit, takeDigits]
  | cons c rest => cases isDigit : c.isDigit <;> simp [NoDigit, takeDigits, isDigit]

theorem readWhole_eq_ok_iff {atEnd : ReadError} {text whole rest : List Char} :
    readWhole atEnd text = .ok (whole, rest) ↔
      text = whole ++ rest ∧ IsWhole whole ∧ NoDigit rest := by
  constructor
  · intro read
    unfold readWhole at read
    split at read
    · split at read
      · rename_i isEmpty
        cases read
        exact ⟨rfl, .zero, noDigit_iff.2 (List.isEmpty_iff.1 isEmpty)⟩
      · cases read
    · rename_i notZero
      obtain ⟨rfl, isDigits, noDigit⟩ := readDigits_eq_ok_iff.1 read
      refine ⟨rfl, .positive isDigits ?_, noDigit⟩
      intro isZero
      obtain ⟨more, rfl⟩ := List.head?_eq_some_iff.1 isZero
      exact notZero _ rfl
  · rintro ⟨rfl, isWhole, noDigit⟩
    cases isWhole with
    | zero => simp [readWhole, noDigit_iff.1 noDigit]
    | positive isDigits notZero =>
      rw [readWhole]
      · exact readDigits_eq_ok_iff.2 ⟨rfl, isDigits, noDigit⟩
      · intro more isZero
        cases whole with
        | nil => exact isDigits.notEmpty rfl
        | cons d digits =>
          obtain ⟨rfl, -⟩ := List.cons.inj isZero
          exact notZero rfl

/-- What follows a fraction does not belong to it. -/
def FractionEnds (fractionText rest : List Char) : Prop :=
  if fractionText = [] then rest.head? ≠ some '.' else NoDigit rest

theorem readFraction_eq_ok_iff {atEnd : ReadError} {text fraction rest : List Char} :
    readFraction atEnd text = .ok (fraction, rest) ↔
      ∃ fractionText, text = fractionText ++ rest ∧ IsFraction fractionText fraction ∧
        FractionEnds fractionText rest := by
  constructor
  · intro read
    unfold readFraction at read
    split at read
    · obtain ⟨rfl, isDigits, noDigit⟩ := readDigits_eq_ok_iff.1 read
      exact ⟨'.' :: fraction, rfl, .point isDigits, noDigit⟩
    · rename_i notPoint
      cases read
      refine ⟨[], rfl, .none, ?_⟩
      intro isPoint
      obtain ⟨more, rfl⟩ := List.head?_eq_some_iff.1 isPoint
      exact notPoint _ rfl
  · rintro ⟨fractionText, rfl, isFraction, ends⟩
    cases isFraction with
    | none =>
      rw [List.nil_append, readFraction]
      rintro more rfl
      exact ends rfl
    | point isDigits => exact readDigits_eq_ok_iff.2 ⟨rfl, isDigits, ends⟩

theorem takeSign_append {sign digits : List Char} {negative : Bool} (isSign : IsSign sign negative)
    (isDigits : IsDigits digits) (rest : List Char) :
    takeSign (sign ++ (digits ++ rest)) = (negative, digits ++ rest) := by
  obtain ⟨c, more, rfl, isDigit⟩ := isDigits.exists_cons
  cases isSign with
  | none =>
    rw [List.nil_append, takeSign]
    · rintro _ ⟨⟩
      exact absurd isDigit (by decide)
    · rintro _ ⟨⟩
      exact absurd isDigit (by decide)
  | plus => rfl
  | minus => rfl

theorem exists_of_takeSign {text rest : List Char} {negative : Bool}
    (taken : takeSign text = (negative, rest)) :
    ∃ sign, text = sign ++ rest ∧ IsSign sign negative := by
  unfold takeSign at taken
  split at taken <;> cases taken
  · exact ⟨['-'], rfl, .minus⟩
  · exact ⟨['+'], rfl, .plus⟩
  · exact ⟨[], rfl, .none⟩

/-- What follows a power of ten does not belong to it. -/
def PowerEnds (powerText rest : List Char) : Prop :=
  if powerText = [] then rest.head? ≠ some 'e' ∧ rest.head? ≠ some 'E' else NoDigit rest

theorem readPower_eq_ok_iff {atEnd : ReadError} {text rest : List Char}
    {power : Option (Bool × List Char)} :
    readPower atEnd text = .ok (power, rest) ↔
      ∃ powerText, text = powerText ++ rest ∧ IsPower powerText power ∧
        PowerEnds powerText rest := by
  constructor
  · intro read
    unfold readPower at read
    split at read
    · cases read
      exact ⟨[], rfl, .none, by decide, by decide⟩
    · rename_i e more
      split at read
      · rename_i isE
        rcases taken : takeSign more with ⟨negative, behind⟩
        obtain ⟨sign, rfl, isSign⟩ := exists_of_takeSign taken
        rw [taken] at read
        obtain ⟨⟨digits, last⟩, isRead, same⟩ := map_eq_ok.1 read
        obtain ⟨rfl, rfl⟩ := Prod.mk.inj same
        obtain ⟨rfl, isDigits, noDigit⟩ := readDigits_eq_ok_iff.1 isRead
        exact ⟨e :: (sign ++ digits), by simp, .power isE isSign isDigits, noDigit⟩
      · rename_i notE
        cases read
        obtain ⟨notSmall, notLarge⟩ := not_or.1 notE
        exact ⟨[], rfl, .none, by simpa [PowerEnds] using ⟨notSmall, notLarge⟩⟩
  · rintro ⟨powerText, rfl, isPower, ends⟩
    cases isPower with
    | none =>
      rw [List.nil_append]
      cases rest with
      | nil => rfl
      | cons e more =>
        obtain ⟨notSmall, notLarge⟩ : e ≠ 'e' ∧ e ≠ 'E' := by simpa [PowerEnds] using ends
        simp only [readPower, notSmall, notLarge, or_self, if_false]
    | @power e sign digits negative isE isSign isDigits =>
      have read : readDigits atEnd (digits ++ rest) = .ok (digits, rest) :=
        readDigits_eq_ok_iff.2 ⟨rfl, isDigits, ends⟩
      rw [List.cons_append, List.append_assoc, readPower, if_pos isE,
        takeSign_append isSign isDigits]
      exact map_eq_ok.2 ⟨_, read, rfl⟩

/-- What follows a numeral does not belong to it. -/
structure NumeralEnds (n : Numeral) (rest : List Char) : Prop where
  noDigit : NoDigit rest
  noPoint : n.fraction = [] → n.power = none → rest.head? ≠ some '.'
  noPower : n.power = none → rest.head? ≠ some 'e' ∧ rest.head? ≠ some 'E'

section Ends

variable {fractionText fraction powerText rest : List Char} {power : Option (Bool × List Char)}
  {negative : Bool} {whole : List Char}

theorem noDigit_cons {c : Char} {text : List Char} (notDigit : c.isDigit = false) :
    NoDigit (c :: text) := by
  rintro _ ⟨⟩
  exact notDigit

theorem isE_notDigit {e : Char} (isE : e = 'e' ∨ e = 'E') : e.isDigit = false ∧ e ≠ '.' := by
  rcases isE with rfl | rfl <;> decide

/-- The parts of a numeral end where they are written just if the numeral does. -/
theorem ends_iff (isFraction : IsFraction fractionText fraction)
    (isPower : IsPower powerText power) :
    (NoDigit (fractionText ++ (powerText ++ rest)) ∧ FractionEnds fractionText (powerText ++ rest) ∧
      PowerEnds powerText rest) ↔ NumeralEnds { negative, whole, fraction, power } rest := by
  cases isFraction with
  | none =>
    cases isPower with
    | none =>
      constructor
      · rintro ⟨noDigit, noPoint, noPower⟩
        exact ⟨noDigit, fun _ _ => noPoint, fun _ => noPower⟩
      · rintro ⟨noDigit, noPoint, noPower⟩
        exact ⟨noDigit, noPoint rfl rfl, noPower rfl⟩
    | power isE isSign isDigits =>
      obtain ⟨notDigit, notPoint⟩ := isE_notDigit isE
      constructor
      · rintro ⟨-, -, noDigit⟩
        exact ⟨noDigit, nofun, nofun⟩
      · rintro ⟨noDigit, -, -⟩
        refine ⟨noDigit_cons notDigit, ?_, noDigit⟩
        rintro ⟨⟩
        exact notPoint rfl
  | point isDigits =>
    have isPoint : '.'.isDigit = false := rfl
    cases isPower with
    | none =>
      constructor
      · rintro ⟨-, noDigit, noPower⟩
        exact ⟨noDigit, fun isNil => absurd isNil isDigits.notEmpty, fun _ => noPower⟩
      · rintro ⟨noDigit, -, noPower⟩
        exact ⟨noDigit_cons isPoint, noDigit, noPower rfl⟩
    | power isE isSign isDigits' =>
      constructor
      · rintro ⟨-, -, noDigit⟩
        exact ⟨noDigit, nofun, nofun⟩
      · rintro ⟨noDigit, -, -⟩
        exact ⟨noDigit_cons isPoint, noDigit_cons (isE_notDigit isE).1, noDigit⟩

end Ends

theorem readUnsigned_eq_ok_iff {atEnd : ReadError} {negative : Bool} {text rest : List Char}
    {n : Numeral} :
    readUnsigned atEnd negative text = .ok (n, rest) ↔
      ∃ written, text = written ++ rest ∧ IsUnsigned negative written n ∧ NumeralEnds n rest := by
  constructor
  · intro read
    obtain ⟨⟨whole, behindWhole⟩, readW, behind⟩ := bind_eq_ok.1 read
    obtain ⟨⟨fraction, behindFraction⟩, readF, behind⟩ := bind_eq_ok.1 behind
    obtain ⟨⟨power, last⟩, readP, same⟩ := map_eq_ok.1 behind
    obtain ⟨rfl, rfl⟩ := Prod.mk.inj same
    obtain ⟨rfl, isWhole, noDigit⟩ := readWhole_eq_ok_iff.1 readW
    obtain ⟨fractionText, rfl, isFraction, fractionEnds⟩ := readFraction_eq_ok_iff.1 readF
    obtain ⟨powerText, rfl, isPower, powerEnds⟩ := readPower_eq_ok_iff.1 readP
    refine ⟨whole ++ (fractionText ++ powerText), by simp, .parts isWhole isFraction isPower, ?_⟩
    exact (ends_iff isFraction isPower).1 ⟨noDigit, fractionEnds, powerEnds⟩
  · rintro ⟨_, rfl, ⟨isWhole, isFraction, isPower⟩, ends⟩
    obtain ⟨noDigit, fractionEnds, powerEnds⟩ := (ends_iff isFraction isPower).2 ends
    rw [List.append_assoc, List.append_assoc]
    exact bind_eq_ok.2 ⟨_, readWhole_eq_ok_iff.2 ⟨rfl, isWhole, noDigit⟩,
      bind_eq_ok.2 ⟨_, readFraction_eq_ok_iff.2 ⟨_, rfl, isFraction, fractionEnds⟩,
        map_eq_ok.2 ⟨_, readPower_eq_ok_iff.2 ⟨_, rfl, isPower, powerEnds⟩, rfl⟩⟩⟩

/-- A number without its sign starts with a digit. -/
theorem IsUnsigned.exists_cons {negative : Bool} {written : List Char} {n : Numeral}
    (isUnsigned : IsUnsigned negative written n) :
    ∃ c more, written = c :: more ∧ c.isDigit = true := by
  obtain ⟨isWhole, isFraction, isPower⟩ := isUnsigned
  obtain ⟨c, digits, rfl, isDigit⟩ := isWhole.exists_cons
  exact ⟨c, _, rfl, isDigit⟩

/-- **A numeral is read just from what writes it**, if what follows does not belong to it. -/
theorem readNumeral_eq_ok_iff {atEnd : ReadError} {text rest : List Char} {n : Numeral} :
    readNumeral atEnd text = .ok (n, rest) ↔
      ∃ written, text = written ++ rest ∧ IsNumeral written n ∧ NumeralEnds n rest := by
  constructor
  · intro read
    unfold readNumeral at read
    split at read
    · obtain ⟨written, rfl, isUnsigned, ends⟩ := readUnsigned_eq_ok_iff.1 read
      exact ⟨'-' :: written, rfl, .negative isUnsigned, ends⟩
    · obtain ⟨written, rfl, isUnsigned, ends⟩ := readUnsigned_eq_ok_iff.1 read
      exact ⟨written, rfl, .positive isUnsigned, ends⟩
  · rintro ⟨_, rfl, isNumeral, ends⟩
    cases isNumeral with
    | positive isUnsigned =>
      have read : readUnsigned atEnd false (_ ++ rest) = .ok (n, rest) :=
        readUnsigned_eq_ok_iff.2 ⟨_, rfl, isUnsigned, ends⟩
      obtain ⟨c, more, rfl, isDigit⟩ := isUnsigned.exists_cons
      rw [readNumeral]
      · exact read
      · rintro _ ⟨⟩
        exact absurd isDigit (by decide)
    | negative isUnsigned => exact readUnsigned_eq_ok_iff.2 ⟨_, rfl, isUnsigned, ends⟩

/-- A number starts as one. -/
theorem IsNumeral.exists_cons {written : List Char} {n : Numeral}
    (isNumeral : IsNumeral written n) :
    ∃ c more, written = c :: more ∧ startsNumber c = true := by
  cases isNumeral with
  | positive isUnsigned =>
    obtain ⟨c, more, rfl, isDigit⟩ := isUnsigned.exists_cons
    exact ⟨c, more, rfl, by simp [startsNumber, isDigit]⟩
  | negative isUnsigned => exact ⟨'-', _, rfl, rfl⟩

/-! ## Numbers -/

/-- A text that is a number. -/
def IsNumber (text : List Char) : Prop :=
  ∃ n, IsNumeral text n

theorem passNumber_eq_ok_iff {text rest : List Char} :
    passNumber text = .ok rest ↔
      ∃ written n, text = written ++ rest ∧ IsNumeral written n ∧ NumeralEnds n rest := by
  constructor
  · intro passed
    obtain ⟨⟨n, last⟩, isRead, rfl⟩ := map_eq_ok.1 passed
    obtain ⟨written, isText, isNumeral, ends⟩ := readNumeral_eq_ok_iff.1 isRead
    exact ⟨written, n, isText, isNumeral, ends⟩
  · rintro ⟨written, n, isText, isNumeral, ends⟩
    exact map_eq_ok.2 ⟨_, readNumeral_eq_ok_iff.2 ⟨written, isText, isNumeral, ends⟩, rfl⟩

/-- What a number that is read says, and how it is written. -/
theorem readNumber_eq_ok_iff {text rest : List Char} {value : Number} :
    readNumber text = .ok (value, rest) ↔
      ∃ written n, text = written ++ rest ∧ IsNumeral written n ∧ NumeralEnds n rest ∧
        n.number? = some value := by
  constructor
  · intro read
    obtain ⟨⟨n, last⟩, isRead, read⟩ := bind_eq_ok.1 read
    dsimp only at read
    split at read
    · rename_i isValue
      cases read
      obtain ⟨written, isText, isNumeral, ends⟩ := readNumeral_eq_ok_iff.1 isRead
      exact ⟨written, n, isText, isNumeral, ends, isValue⟩
    · cases read
  · rintro ⟨written, n, isText, isNumeral, ends, isValue⟩
    refine bind_eq_ok.2 ⟨_, readNumeral_eq_ok_iff.2 ⟨written, isText, isNumeral, ends⟩, ?_⟩
    simp only [isValue]

/-- A number that is read is passed over up to the same place. -/
theorem passNumber_of_readNumber {text rest : List Char} {value : Number}
    (read : readNumber text = .ok (value, rest)) : passNumber text = .ok rest := by
  obtain ⟨written, n, isText, isNumeral, ends, -⟩ := readNumber_eq_ok_iff.1 read
  exact passNumber_eq_ok_iff.2 ⟨written, n, isText, isNumeral, ends⟩

/-! ## What may follow a number -/

/-- A character that may follow any value: a blank, a comma or a closing bracket. -/
def isSeparator (c : Char) : Bool :=
  isBlank c || c == ',' || c == ']' || c == '}'

/-- Nothing follows, or a character that may follow any value. -/
def Separated (text : List Char) : Prop :=
  ∀ c ∈ text.head?, isSeparator c = true

theorem separated_nil : Separated [] :=
  nofun

theorem separated_cons {c : Char} {text : List Char} (isSep : isSeparator c = true) :
    Separated (c :: text) := by
  rintro _ ⟨⟩
  exact isSep

theorem Separated.ne {text : List Char} (separated : Separated text) {c : Char}
    (notSep : isSeparator c = false) : text.head? ≠ some c := by
  intro isFront
  have isSep := separated c isFront
  rw [notSep] at isSep
  cases isSep

theorem Separated.numeralEnds {text : List Char} (separated : Separated text) (n : Numeral) :
    NumeralEnds n text where
  noDigit := by
    intro c isFront
    have isSep := separated c isFront
    simp only [isSeparator, isBlank, Bool.or_eq_true, beq_iff_eq] at isSep
    rcases isSep with (((((rfl | rfl) | rfl) | rfl) | rfl) | rfl) | rfl <;> rfl
  noPoint _ _ := separated.ne rfl
  noPower _ := ⟨separated.ne rfl, separated.ne rfl⟩

namespace NumeralEnds

variable {n : Numeral} {rest more : List Char}

/-- Whether a numeral ends is settled by the first character behind it. -/
theorem congr_head (same : rest.head? = more.head?) (ends : NumeralEnds n rest) :
    NumeralEnds n more := by
  obtain ⟨noDigit, noPoint, noPower⟩ := ends
  rw [NoDigit, same] at noDigit
  rw [same] at noPoint noPower
  exact ⟨noDigit, noPoint, noPower⟩

theorem nil (n : Numeral) : NumeralEnds n [] :=
  separated_nil.numeralEnds n

theorem of_append (ends : NumeralEnds n (rest ++ more)) : NumeralEnds n rest := by
  cases rest with
  | nil => exact nil n
  | cons c rest =>
    have same : (c :: rest ++ more).head? = (c :: rest).head? := rfl
    exact ends.congr_head same

theorem append (ends : NumeralEnds n rest) (separated : rest = [] → Separated more) :
    NumeralEnds n (rest ++ more) := by
  cases rest with
  | nil => exact (separated rfl).numeralEnds n
  | cons c rest =>
    have same : (c :: rest).head? = (c :: rest ++ more).head? := rfl
    exact ends.congr_head same

end NumeralEnds

/-- A text writes one numeral at most. -/
theorem IsNumeral.unique {written : List Char} {n n' : Numeral} (first : IsNumeral written n)
    (second : IsNumeral written n') : n = n' := by
  have read {n : Numeral} (isNumeral : IsNumeral written n) :
      readNumeral .invalidNumber written = .ok (n, []) :=
    readNumeral_eq_ok_iff.2 ⟨written, (List.append_nil _).symm, isNumeral, .nil n⟩
  have same := (read first).symm.trans (read second)
  cases same
  rfl

end WalletView.Json
