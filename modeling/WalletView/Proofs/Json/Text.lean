/-
# Proofs.Json.Text — a string is read back from its quotes

Every character of a string is read back from the way it stands there: as itself, from its short
escape, or from its number (`readCharacters_escape`).  So is the whole string, and reading stops
behind its closing quote.
-/
import WalletView.Json.Text
import WalletView.Json.Printer

set_option autoImplicit false

namespace WalletView.Json

theorem skipBlanks_cons {c : Char} {text : List Char} (front : isBlank c = false) :
    skipBlanks (c :: text) = c :: text := by
  simp [skipBlanks, front]

theorem readWord_append (word text : List Char) : readWord word (word ++ text) = .ok text := by
  induction word with
  | nil => rfl
  | cons w word ih => simpa [readWord] using ih

theorem quote_append (s : String) (text : List Char) :
    quote s ++ text = '"' :: (s.toList.flatMap escape ++ '"' :: text) := by
  simp [quote]

/-! ## Characters -/

theorem hexDigit?_digitChar {d : Nat} (isDigit : d < 16) :
    Text.hexDigit? (Nat.digitChar d) = some d := by
  revert d
  decide

/-- A control character is read back from its number. -/
theorem readEscape_control {c : Char} (isControl : c < ' ') (text : List Char) :
    readEscape ('u' :: '0' :: '0' :: Nat.digitChar (c.toNat / 16) :: Nat.digitChar (c.toNat % 16)
      :: text) = .ok (c, text) := by
  have small : c.toNat < 32 := isControl
  have high := hexDigit?_digitChar (d := c.toNat / 16) (by omega)
  have low := hexDigit?_digitChar (d := c.toNat % 16) (by omega)
  have zero : Text.hexDigit? '0' = some 0 := rfl
  have unit : ((0 * 16 + 0) * 16 + c.toNat / 16) * 16 + c.toNat % 16 = c.toNat := by omega
  have notLow : isLowSurrogate c.toNat = false := by simp [isLowSurrogate]; omega
  have notHigh : isHighSurrogate c.toNat = false := by simp [isHighSurrogate]; omega
  simp only [readEscape, shortEscape?, readNumbered, readCodeUnit, high, low, zero, unit, notLow,
    notHigh]
  simp [Char.ofNat_toNat]

/-- What stands behind an escape's backslash is read as the character it means, and reading goes
on behind it. -/
theorem readCharacters_backslash {meant : Char} {escaped rest : List Char}
    (read : readEscape escaped = .ok (meant, rest)) :
    readCharacters ('\\' :: escaped) =
      (readCharacters rest).map fun (more, rest) => (meant :: more, rest) := by
  rw [readCharacters]
  split
  · rename_i bad; exact absurd bad (by decide)
  · split
    · split <;> simp_all
    · rename_i bad; exact absurd rfl bad

theorem readCharacters_escape (c : Char) (text : List Char) :
    readCharacters (escape c ++ text) =
      (readCharacters text).map fun (more, rest) => (c :: more, rest) := by
  unfold escape
  repeat' split
  all_goals try (subst_vars; exact readCharacters_backslash rfl)
  · rename_i control
    exact readCharacters_backslash (readEscape_control control text)
  · rename_i notQuote notBackslash _ _ _ _ _ notControl
    rw [List.singleton_append, readCharacters]
    simp only [notQuote, notBackslash, notControl, if_false]

/-! ## Strings -/

theorem readCharacters_flatMap_escape (characters text : List Char) :
    readCharacters (characters.flatMap escape ++ '"' :: text) = .ok (characters, text) := by
  induction characters with
  | nil => rw [List.flatMap_nil, List.nil_append, readCharacters]; rfl
  | cons c more ih =>
    rw [List.flatMap_cons, List.append_assoc, readCharacters_escape, ih]
    rfl

/-- **A string is read back from its quotes.** -/
theorem readString_escape (s : String) (text : List Char) :
    readString (s.toList.flatMap escape ++ '"' :: text) = .ok (s, text) := by
  rw [readString, readCharacters_flatMap_escape]
  simp [Except.map]

end WalletView.Json
