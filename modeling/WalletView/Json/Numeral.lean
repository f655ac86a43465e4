/-
# Json.Numeral — numbers as they are written, and what they denote

A numeral has a sign, whole digits without a needless zero in front, perhaps digits behind a
point and perhaps a power of ten.  `Numeral.number?` gives its value: a numeral without point
and power is an integer as long as it fits a 64-bit word, signed or unsigned; any other is a
double.  The double takes as many leading digits as fit an unsigned word; whole digits beyond
those still raise the power of ten, the others are dropped.  Minus zero is a double.
-/
import WalletView.Json.Rest
import WalletView.Json.Basic

set_option autoImplicit false

namespace WalletView.Json

/-- A number as it is written. -/
structure Numeral where
  negative : Bool
  whole : List Char
  fraction : List Char
  /-- The sign and the digits of the power of ten. -/
  power : Option (Bool × List Char)
deriving Repr

namespace Numeral

/-- The first number that does not fit an unsigned word. -/
def wordLimit : Nat := twoPow 64

/-- Appends digits to a number while the result fits a word; the digits that no longer do. -/
def gather (word : Nat) : List Char → Nat × List Char
  | [] => (word, [])
  | digit :: more =>
    let next := Nat.ofDigitChars 10 [digit] word
    if next < wordLimit then gather next more else (word, digit :: more)

/-- The power of ten that is written out. -/
def powerValue : Option (Bool × List Char) → Int
  | none => 0
  | some (negative, digits) =>
    let value : Int := Nat.ofDigitChars 10 digits 0
    if negative then -value else value

/-- The value of a whole numeral whose digits make up a word. -/
def wholeNumber? (negative : Bool) (word : Nat) : Option Number :=
  if negative then
    if word = 0 ∨ twoPow 63 < word then (Binary64.ofDecimal? true word 0).map .double
    else some (.integer (-word))
  else some (.integer word)

/-- What a numeral denotes, or nothing if it is too great for a double. -/
def number? (n : Numeral) : Option Number :=
  let (word, beyond) := gather 0 n.whole
  if n.fraction.isEmpty && n.power.isNone && beyond.isEmpty then wholeNumber? n.negative word
  else
    let (word, unused) := gather word n.fraction
    let taken := n.fraction.length - unused.length
    (Binary64.ofDecimal? n.negative word (beyond.length - taken + powerValue n.power)).map .double

end Numeral

/-- Splits off the digits in front. -/
def takeDigits (text : List Char) : List Char × List Char :=
  (text.takeWhile Char.isDigit, text.dropWhile Char.isDigit)

/-- Reads digits of which there must be at least one; `atEnd` is the problem if there is no text
left to find one in. -/
def readDigits (atEnd : ReadError) (text : List Char) : Except ReadError (List Char × List Char) :=
  match text, takeDigits text with
  | [], _ => .error atEnd
  | _, ([], _) => .error .invalidNumber
  | _, (digits, rest) => .ok (digits, rest)

/-- Reads the digits in front of a point. -/
def readWhole (atEnd : ReadError) (text : List Char) : Except ReadError (List Char × List Char) :=
  match text with
  | '0' :: rest =>
    if (takeDigits rest).1.isEmpty then .ok (['0'], rest) else .error .invalidNumber
  | text => readDigits atEnd text

/-- Reads a point and the digits behind it, if there is a point. -/
def readFraction (atEnd : ReadError) (text : List Char) :
    Except ReadError (List Char × List Char) :=
  match text with
  | '.' :: rest => readDigits atEnd rest
  | text => .ok ([], text)

/-- Splits off the sign of a power of ten: whether it is negative. -/
def takeSign : List Char → Bool × List Char
  | '-' :: rest => (true, rest)
  | '+' :: rest => (false, rest)
  | text => (false, text)

/-- Reads a power of ten, if there is one. -/
def readPower (atEnd : ReadError) (text : List Char) :
    Except ReadError (Option (Bool × List Char) × List Char) :=
  match text with
  | [] => .ok (none, [])
  | c :: rest =>
    if c = 'e' ∨ c = 'E' then
      let (negative, rest) := takeSign rest
      (readDigits atEnd rest).map fun (digits, rest) => (some (negative, digits), rest)
    else .ok (none, c :: rest)

/-- Reads a numeral without its sign. -/
def readUnsigned (atEnd : ReadError) (negative : Bool) (text : List Char) : Outcome Numeral :=
  (readWhole atEnd text).bind fun (whole, text) =>
  (readFraction atEnd text).bind fun (fraction, text) =>
  (readPower atEnd text).map fun (power, text) =>
    ({ negative, whole, fraction, power }, text)

/-- Reads a numeral; `atEnd` is the problem if the text ends where a digit has to stand. -/
def readNumeral (atEnd : ReadError) (text : List Char) : Outcome Numeral :=
  match text with
  | '-' :: rest => readUnsigned atEnd true rest
  | text => readUnsigned atEnd false text

/-- Reads a number. -/
def readNumber (text : List Char) : Outcome Number :=
  (readNumeral (.ended .value) text).bind fun (numeral, rest) =>
    match numeral.number? with
    | some value => .ok (value, rest)
    | none => .error .numberOutOfRange

/-- Checks the form of a number, whatever its size. -/
def passNumber (text : List Char) : Except ReadError (List Char) :=
  (readNumeral .invalidNumber text).map (·.2)

/-- Whether a number starts with this character. -/
def startsNumber (c : Char) : Bool :=
  c == '-' || c.isDigit

theorem ne_of_startsNumber {c d : Char} (starts : startsNumber c = true)
    (notNumber : startsNumber d = false) : c ≠ d := by
  rintro rfl
  rw [notNumber] at starts
  cases starts

theorem readDigits_rest {atEnd : ReadError} {text digits rest : List Char}
    (h : readDigits atEnd text = .ok (digits, rest)) : Rest text rest := by
  cases text with
  | nil => simp [readDigits] at h
  | cons c text =>
    by_cases digit : c.isDigit
    · simp only [readDigits, takeDigits, List.takeWhile_cons, digit, List.dropWhile_cons,
        if_true, Except.ok.injEq, Prod.mk.injEq] at h
      exact h.2 ▸ .consumes (List.dropWhile_suffix _)
    · simp [readDigits, takeDigits, digit] at h

theorem readWhole_rest {atEnd : ReadError} {text digits rest : List Char}
    (h : readWhole atEnd text = .ok (digits, rest)) : Rest text rest := by
  unfold readWhole at h
  split at h
  · split at h
    · simp only [Except.ok.injEq, Prod.mk.injEq] at h
      exact h.2 ▸ .cons _ _
    · simp at h
  · exact readDigits_rest h

theorem readFraction_suffix {atEnd : ReadError} {text digits rest : List Char}
    (h : readFraction atEnd text = .ok (digits, rest)) : rest <:+ text := by
  unfold readFraction at h
  split at h
  · exact (readDigits_rest h).suffix.trans (List.suffix_cons _ _)
  · simp only [Except.ok.injEq, Prod.mk.injEq] at h
    exact h.2 ▸ List.suffix_refl _

theorem takeSign_suffix (text : List Char) : (takeSign text).2 <:+ text := by
  unfold takeSign
  split
  · exact List.suffix_cons _ _
  · exact List.suffix_cons _ _
  · exact List.suffix_refl _

theorem readPower_suffix {atEnd : ReadError} {text rest : List Char}
    {power : Option (Bool × List Char)} (h : readPower atEnd text = .ok (power, rest)) :
    rest <:+ text := by
  unfold readPower at h
  split at h
  · simp only [Except.ok.injEq, Prod.mk.injEq] at h
    exact h.2 ▸ List.suffix_refl _
  · split at h
    · obtain ⟨⟨digits, last⟩, read, same⟩ := map_eq_ok.1 h
      obtain ⟨-, rfl⟩ := Prod.mk.inj same
      exact (readDigits_rest read).suffix.trans
        ((takeSign_suffix _).trans (List.suffix_cons _ _))
    · simp only [Except.ok.injEq, Prod.mk.injEq] at h
      exact h.2 ▸ List.suffix_refl _

theorem readUnsigned_rest {atEnd : ReadError} {negative : Bool} {text rest : List Char}
    {n : Numeral} (h : readUnsigned atEnd negative text = .ok (n, rest)) : Rest text rest := by
  obtain ⟨⟨whole, afterWhole⟩, readW, h⟩ := bind_eq_ok.1 h
  obtain ⟨⟨fraction, afterFraction⟩, readF, h⟩ := bind_eq_ok.1 h
  obtain ⟨⟨power, last⟩, readP, same⟩ := map_eq_ok.1 h
  obtain ⟨-, rfl⟩ := Prod.mk.inj same
  exact (readWhole_rest readW).then_suffix
    ((readPower_suffix readP).trans (readFraction_suffix readF))

theorem readNumeral_rest {atEnd : ReadError} {text rest : List Char} {n : Numeral}
    (h : readNumeral atEnd text = .ok (n, rest)) : Rest text rest := by
  unfold readNumeral at h
  split at h
  · exact .consumes (readUnsigned_rest h).suffix
  · exact readUnsigned_rest h

theorem readNumber_rest {text rest : List Char} {n : Number}
    (h : readNumber text = .ok (n, rest)) : Rest text rest := by
  obtain ⟨⟨numeral, last⟩, read, h⟩ := bind_eq_ok.1 h
  dsimp only at h
  split at h
  · simp only [Except.ok.injEq, Prod.mk.injEq] at h
    exact h.2 ▸ readNumeral_rest read
  · simp at h

theorem passNumber_rest {text rest : List Char} (h : passNumber text = .ok rest) :
    Rest text rest := by
  obtain ⟨⟨numeral, last⟩, read, rfl⟩ := map_eq_ok.1 h
  exact readNumeral_rest read

end WalletView.Json
