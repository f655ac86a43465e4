/-
# Proofs.Json.Grammar.Text — which texts are blanks and strings

The grammar of strings, said without the functions that read them, and beside each kind of text what
reads it:

* `Spells`: the contents of a string, and the characters that they spell.  They are what
  `readString` reads (`readString_eq_ok_iff`).
* `IsStringBody`: the contents of a string in form alone, where a surrogate may stand by itself.
  They are what `passString` passes over (`passString_eq_ok_iff`), and what spells characters is
  among them (`Spells.isStringBody`).
-/
import Mathlib.Data.List.TakeWhile
import WalletView.Proofs.Json.Text

set_option autoImplicit false

namespace WalletView.Json

/-! ## Blanks -/

/-- A text of blanks. -/
def Blanks (text : List Char) : Prop :=
  ∀ c ∈ text, isBlank c = true

theorem Blanks.nil : Blanks [] :=
  List.forall_mem_nil _

theorem skipBlanks_append {blanks : List Char} (isBlanks : Blanks blanks) (text : List Char) :
    skipBlanks (blanks ++ text) = skipBlanks text :=
  List.dropWhile_append_of_pos isBlanks

theorem skipBlanks_eq_nil_iff {text : List Char} : skipBlanks text = [] ↔ Blanks text :=
  List.dropWhile_eq_nil_iff

theorem skipBlanks_eq_cons_iff {text rest : List Char} {c : Char} :
    skipBlanks text = c :: rest ↔
      ∃ blanks, text = blanks ++ c :: rest ∧ Blanks blanks ∧ isBlank c = false := by
  constructor
  · intro front
    have split : text = text.takeWhile isBlank ++ c :: rest := by
      rw [← front]
      exact List.takeWhile_append_dropWhile.symm
    have notBlank : isBlank c = false := by
      have := List.head?_dropWhile_not isBlank text
      rw [show text.dropWhile isBlank = c :: rest from front] at this
      exact this
    exact ⟨_, split, fun d member => List.mem_takeWhile_imp member, notBlank⟩
  · rintro ⟨blanks, rfl, isBlanks, notBlank⟩
    rw [skipBlanks_append isBlanks, skipBlanks_cons notBlank]

/-! ## Strings -/

/-- Four hexadecimal digits, and the code unit that they number. -/
inductive CodeUnit : List Char → Nat → Prop where
  | digits {a b c d : Char} {w x y z : Nat} (first : Text.hexDigit? a = some w)
      (second : Text.hexDigit? b = some x) (third : Text.hexDigit? c = some y)
      (fourth : Text.hexDigit? d = some z) :
      CodeUnit [a, b, c, d] (((w * 16 + x) * 16 + y) * 16 + z)

theorem readCodeUnit_eq_ok_iff {text rest : List Char} {unit : Nat} :
    readCodeUnit text = .ok (unit, rest) ↔
      ∃ digits, text = digits ++ rest ∧ CodeUnit digits unit := by
  constructor
  · intro read
    unfold readCodeUnit at read
    split at read
    · rename_i a b c d last
      split at read
      · rename_i first second third fourth
        cases read
        exact ⟨[a, b, c, d], rfl, .digits first second third fourth⟩
      · cases read
    · cases read
  · rintro ⟨_, rfl, first, second, third, fourth⟩
    simp only [List.cons_append, List.nil_append, readCodeUnit, first, second, third, fourth]

/-- What stands behind a backslash, and the character that it means. -/
inductive Escape : List Char → Char → Prop where
  | short {c meant : Char} (isShort : shortEscape? c = some meant) : Escape [c] meant
  | numbered {digits : List Char} {unit : Nat} (isUnit : CodeUnit digits unit)
      (notLow : isLowSurrogate unit = false) (notHigh : isHighSurrogate unit = false) :
      Escape ('u' :: digits) (.ofNat unit)
  | pair {digits digits' : List Char} {high low : Nat} (isUnit : CodeUnit digits high)
      (isUnit' : CodeUnit digits' low) (isHigh : isHighSurrogate high = true)
      (isLow : isLowSurrogate low = true) :
      Escape ('u' :: (digits ++ '\\' :: 'u' :: digits'))
        (.ofNat ((high - 0xd800) * 0x400 + (low - 0xdc00) + 0x10000))

/-- What stands behind a backslash, in form alone. -/
inductive IsEscape : List Char → Prop where
  | short {c : Char} (isShort : (shortEscape? c).isSome = true) : IsEscape [c]
  | numbered {digits : List Char} {unit : Nat} (isUnit : CodeUnit digits unit) :
      IsEscape ('u' :: digits)

theorem isLowSurrogate_of_isHighSurrogate {unit : Nat} (isHigh : isHighSurrogate unit = true) :
    isLowSurrogate unit = false := by
  simp only [isHighSurrogate, Bool.and_eq_true, decide_eq_true_eq] at isHigh
  simp only [isLowSurrogate, Bool.and_eq_false_iff, decide_eq_false_iff_not]
  omega

theorem exists_of_readPair {high : Nat} {text rest : List Char} {c : Char}
    (read : readPair high text = .ok (c, rest)) :
    ∃ digits low, text = '\\' :: 'u' :: (digits ++ rest) ∧ CodeUnit digits low ∧
      isLowSurrogate low = true ∧
      c = .ofNat ((high - 0xd800) * 0x400 + (low - 0xdc00) + 0x10000) := by
  unfold readPair at read
  split at read
  · cases read
  · cases read
  · split at read
    · cases read
    · rename_i low last readUnit
      obtain ⟨digits, rfl, isUnit⟩ := readCodeUnit_eq_ok_iff.1 readUnit
      split at read
      · rename_i isLow
        simp only [Except.ok.injEq, Prod.mk.injEq] at read
        obtain ⟨rfl, rfl⟩ := read
        exact ⟨digits, low, rfl, isUnit, isLow, rfl⟩
      · cases read
  · cases read

/-- What is read behind a backslash is an escape. -/
theorem exists_of_readEscape {text rest : List Char} {meant : Char}
    (read : readEscape text = .ok (meant, rest)) :
    ∃ escaped, text = escaped ++ rest ∧ Escape escaped meant := by
  unfold readEscape at read
  split at read
  · cases read
  · rename_i c more
    split at read
    · rename_i isShort
      cases read
      exact ⟨[c], rfl, .short isShort⟩
    · split at read
      · rename_i isU
        subst isU
        unfold readNumbered at read
        split at read
        · cases read
        · rename_i unit last readUnit
          obtain ⟨digits, rfl, isUnit⟩ := readCodeUnit_eq_ok_iff.1 readUnit
          split at read
          · cases read
          · rename_i notLow
            have notLow := Bool.eq_false_iff.2 notLow
            split at read
            · rename_i isHigh
              obtain ⟨digits', low, rfl, isUnit', isLow, isMeant⟩ := exists_of_readPair read
              rw [isMeant]
              exact ⟨'u' :: (digits ++ '\\' :: 'u' :: digits'), by simp,
                .pair isUnit isUnit' isHigh isLow⟩
            · rename_i notHigh
              have notHigh := Bool.eq_false_iff.2 notHigh
              simp only [Except.ok.injEq, Prod.mk.injEq] at read
              obtain ⟨rfl, rfl⟩ := read
              exact ⟨_, rfl, .numbered isUnit notLow notHigh⟩
      · cases read

theorem readCodeUnit_append {digits : List Char} {unit : Nat} (isUnit : CodeUnit digits unit)
    (rest : List Char) : readCodeUnit (digits ++ rest) = .ok (unit, rest) :=
  readCodeUnit_eq_ok_iff.2 ⟨digits, rfl, isUnit⟩

theorem readEscape_append {escaped : List Char} {meant : Char} (isEscape : Escape escaped meant)
    (rest : List Char) : readEscape (escaped ++ rest) = .ok (meant, rest) := by
  have notShort : shortEscape? 'u' = none := rfl
  cases isEscape with
  | short isShort => simp only [List.cons_append, List.nil_append, readEscape, isShort]
  | numbered isUnit notLow notHigh =>
    have unit := readCodeUnit_append isUnit rest
    simp [readEscape, notShort, readNumbered, unit, notLow, notHigh]
  | @pair digits digits' high low isUnit isUnit' isHigh isLow =>
    have notLow := isLowSurrogate_of_isHighSurrogate isHigh
    have first := readCodeUnit_append isUnit ('\\' :: 'u' :: (digits' ++ rest))
    have last := readCodeUnit_append isUnit' rest
    simp [readEscape, notShort, readNumbered, first, notLow, isHigh, readPair, last, isLow]

theorem passEscape_eq_ok_iff {text rest : List Char} :
    passEscape text = .ok rest ↔ ∃ escaped, text = escaped ++ rest ∧ IsEscape escaped := by
  have notShort : (shortEscape? 'u').isSome = false := rfl
  constructor
  · intro passed
    unfold passEscape at passed
    split at passed
    · cases passed
    · rename_i c more
      split at passed
      · rename_i isShort
        cases passed
        exact ⟨[c], rfl, .short isShort⟩
      · split at passed
        · rename_i isU
          subst isU
          obtain ⟨⟨unit, last⟩, readUnit, rfl⟩ := map_eq_ok.1 passed
          obtain ⟨digits, rfl, isUnit⟩ := readCodeUnit_eq_ok_iff.1 readUnit
          exact ⟨_, rfl, .numbered isUnit⟩
        · cases passed
  · rintro ⟨_, rfl, isEscape⟩
    cases isEscape with
    | short isShort => simp [passEscape, isShort]
    | numbered isUnit =>
      have unit := readCodeUnit_append isUnit rest
      simp [passEscape, notShort, unit, Except.map]

/-- A character that stands for itself in a string. -/
structure IsPlain (c : Char) : Prop where
  notQuote : c ≠ '"'
  notBackslash : c ≠ '\\'
  notControl : ¬ c < ' '

instance (c : Char) : Decidable (IsPlain c) :=
  decidable_of_iff (c ≠ '"' ∧ c ≠ '\\' ∧ ¬ c < ' ')
    ⟨fun ⟨notQuote, notBackslash, notControl⟩ => ⟨notQuote, notBackslash, notControl⟩,
      fun isPlain => ⟨isPlain.notQuote, isPlain.notBackslash, isPlain.notControl⟩⟩

/-- The contents of a string, and the characters that they spell. -/
inductive Spells : List Char → List Char → Prop where
  | nil : Spells [] []
  | plain {c : Char} {body meant : List Char} (isPlain : IsPlain c) (more : Spells body meant) :
      Spells (c :: body) (c :: meant)
  | escaped {c : Char} {escaped body meant : List Char} (isEscape : Escape escaped c)
      (more : Spells body meant) : Spells ('\\' :: (escaped ++ body)) (c :: meant)

/-- The contents of a string, in form alone. -/
inductive IsStringBody : List Char → Prop where
  | nil : IsStringBody []
  | plain {c : Char} {body : List Char} (isPlain : IsPlain c) (more : IsStringBody body) :
      IsStringBody (c :: body)
  | escaped {escaped body : List Char} (isEscape : IsEscape escaped)
      (more : IsStringBody body) : IsStringBody ('\\' :: (escaped ++ body))

/-- Plain characters spell themselves. -/
theorem spells_of_isPlain {text : List Char} (isPlain : ∀ c ∈ text, IsPlain c) :
    Spells text text := by
  induction text with
  | nil => exact .nil
  | cons c more ih =>
    obtain ⟨isPlainFirst, isPlainMore⟩ := List.forall_mem_cons.1 isPlain
    exact .plain isPlainFirst (ih isPlainMore)

/-- What is read up to the closing quote are the contents of a string. -/
theorem exists_of_readCharacters {text rest meant : List Char}
    (read : readCharacters text = .ok (meant, rest)) :
    ∃ body, text = body ++ '"' :: rest ∧ Spells body meant := by
  fun_induction readCharacters text generalizing meant with
  | case1 => cases read
  | case2 text =>
    cases read
    exact ⟨[], rfl, .nil⟩
  | case3 => cases read
  | case4 text c next isRead _ _ ih =>
    obtain ⟨⟨more, last⟩, readMore, same⟩ := map_eq_ok.1 read
    obtain ⟨rfl, rfl⟩ := Prod.mk.inj same
    obtain ⟨escaped, rfl, isEscape⟩ := exists_of_readEscape isRead
    obtain ⟨body, rfl, spells⟩ := ih readMore
    exact ⟨_, by simp, .escaped isEscape spells⟩
  | case5 => cases read
  | case6 c text notQuote notBackslash notControl ih =>
    obtain ⟨⟨more, last⟩, readMore, same⟩ := map_eq_ok.1 read
    obtain ⟨rfl, rfl⟩ := Prod.mk.inj same
    obtain ⟨body, rfl, spells⟩ := ih readMore
    exact ⟨c :: body, rfl, .plain ⟨notQuote, notBackslash, notControl⟩ spells⟩

/-- **A string's characters are read just from what spells them**, up to its closing quote. -/
theorem readCharacters_eq_ok_iff {text rest meant : List Char} :
    readCharacters text = .ok (meant, rest) ↔
      ∃ body, text = body ++ '"' :: rest ∧ Spells body meant := by
  refine ⟨exists_of_readCharacters, ?_⟩
  rintro ⟨body, rfl, spells⟩
  induction spells with
  | nil => rw [List.nil_append, readCharacters]; rfl
  | @plain c body meant isPlain _ ih =>
    rw [List.cons_append, readCharacters]
    simp only [isPlain.notQuote, isPlain.notBackslash, isPlain.notControl, if_false, ih]
    rfl
  | escaped isEscape _ ih =>
    rw [List.cons_append, List.append_assoc,
      readCharacters_backslash (readEscape_append isEscape _), ih]
    rfl

/-- What is passed over up to the closing quote are the contents of a string. -/
theorem exists_of_passString {text rest : List Char} (passed : passString text = .ok rest) :
    ∃ body, text = body ++ '"' :: rest ∧ IsStringBody body := by
  fun_induction passString text with
  | case1 => cases passed
  | case2 text =>
    cases passed
    exact ⟨[], rfl, .nil⟩
  | case3 => cases passed
  | case4 text next isPassed _ _ ih =>
    obtain ⟨escaped, rfl, isEscape⟩ := passEscape_eq_ok_iff.1 isPassed
    obtain ⟨body, rfl, isBody⟩ := ih passed
    exact ⟨_, by simp, .escaped isEscape isBody⟩
  | case5 => cases passed
  | case6 c text notQuote notBackslash notControl ih =>
    obtain ⟨body, rfl, isBody⟩ := ih passed
    exact ⟨c :: body, rfl, .plain ⟨notQuote, notBackslash, notControl⟩ isBody⟩

theorem passString_backslash {escaped rest : List Char} (passed : passEscape escaped = .ok rest) :
    passString ('\\' :: escaped) = passString rest := by
  rw [passString]
  split
  · rename_i bad; exact absurd bad (by decide)
  · split
    · split <;> simp_all
    · rename_i bad; exact absurd rfl bad

/-- **A string is passed over just if its contents have the form of a string's.** -/
theorem passString_eq_ok_iff {text rest : List Char} :
    passString text = .ok rest ↔ ∃ body, text = body ++ '"' :: rest ∧ IsStringBody body := by
  refine ⟨exists_of_passString, ?_⟩
  rintro ⟨body, rfl, isBody⟩
  induction isBody with
  | nil => rw [List.nil_append, passString]; rfl
  | @plain c body isPlain _ ih =>
    rw [List.cons_append, passString]
    simp only [isPlain.notQuote, isPlain.notBackslash, isPlain.notControl, if_false, ih]
  | escaped isEscape _ ih =>
    rw [List.cons_append, List.append_assoc,
      passString_backslash (passEscape_eq_ok_iff.2 ⟨_, rfl, isEscape⟩), ih]

/-- What spells characters has the form of a string's contents; a pair of surrogates is two
escapes. -/
theorem Spells.isStringBody {body meant : List Char} (spells : Spells body meant) :
    IsStringBody body := by
  induction spells with
  | nil => exact .nil
  | plain isPlain _ ih => exact .plain isPlain ih
  | escaped isEscape _ ih =>
    cases isEscape with
    | short isShort => exact .escaped (.short (by rw [isShort]; rfl)) ih
    | numbered isUnit _ _ => exact .escaped (.numbered isUnit) ih
    | pair isUnit isUnit' _ _ =>
      have second := IsStringBody.escaped (.numbered isUnit') ih
      have both := IsStringBody.escaped (.numbered isUnit) second
      simpa using both

/-- **A string is read just from what spells it**, up to its closing quote. -/
theorem readString_eq_ok_iff {text rest : List Char} {s : String} :
    readString text = .ok (s, rest) ↔
      ∃ body, text = body ++ '"' :: rest ∧ Spells body s.toList := by
  rw [← readCharacters_eq_ok_iff, readString]
  constructor
  · intro read
    obtain ⟨⟨meant, last⟩, readMeant, same⟩ := map_eq_ok.1 read
    obtain ⟨rfl, rfl⟩ := Prod.mk.inj same
    rw [String.toList_ofList, readMeant]
  · intro readMeant
    rw [readMeant]
    simp [Except.map]

/-- A string that is read is passed over up to the same place. -/
theorem passString_of_readString {text rest : List Char} {s : String}
    (read : readString text = .ok (s, rest)) : passString text = .ok rest := by
  obtain ⟨body, isText, spells⟩ := readString_eq_ok_iff.1 read
  exact passString_eq_ok_iff.2 ⟨body, isText, spells.isStringBody⟩

end WalletView.Json
