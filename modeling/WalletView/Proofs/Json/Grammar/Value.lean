/-
# Proofs.Json.Grammar.Value — which texts are values, and what is passed over

A text is a value if it derives from the grammar (`IsValue`), however deep its brackets are nested
and however large its numbers are.  The forms that a bracket's text goes through are those in which
it is passed over: just opened, at a part, behind a part.

Passing over a value stops just behind it, whatever follows, if that does not belong to a number
that the value is (`Derives.skips`), and nothing but a value is passed over (`passed`).  Both are put
together in `skip_eq_ok_iff`.
-/
import WalletView.Json.Skip
import WalletView.Proofs.Json.Grammar.Text
import WalletView.Proofs.Json.Grammar.Numeral

set_option autoImplicit false

namespace WalletView.Json

/-! ## The grammar -/

/-- A value that is neither a list nor an object. -/
inductive IsScalarText : List Char → Prop where
  | null : IsScalarText ['n', 'u', 'l', 'l']
  | true : IsScalarText ['t', 'r', 'u', 'e']
  | false : IsScalarText ['f', 'a', 'l', 's', 'e']
  | string {body : List Char} (isBody : IsStringBody body) : IsScalarText ('"' :: (body ++ ['"']))
  | number {text : List Char} (isNumber : IsNumber text) : IsScalarText text

def Bracket.opening : Bracket → Char
  | .list => '['
  | .object => '{'

/-- What a text can be: a value, or the part of a bracket's text from one of three places on. -/
inductive Form where
  | value
  /-- All that follows the opening bracket. -/
  | opened (bracket : Bracket)
  /-- An item, or a key and its value. -/
  | part (bracket : Bracket)
  /-- All that follows a part. -/
  | tail (bracket : Bracket)

/-- The grammar of values. -/
inductive Derives : Form → List Char → Prop where
  | scalar {text : List Char} (isScalar : IsScalarText text) : Derives .value text
  | nested {bracket : Bracket} {text : List Char} (inside : Derives (.opened bracket) text) :
      Derives .value (bracket.opening :: text)
  | empty {bracket : Bracket} {blanks : List Char} (isBlanks : Blanks blanks) :
      Derives (.opened bracket) (blanks ++ [bracket.close])
  | parts {bracket : Bracket} {first more : List Char} (isPart : Derives (.part bracket) first)
      (isTail : Derives (.tail bracket) more) : Derives (.opened bracket) (first ++ more)
  | item {blanks value : List Char} (isBlanks : Blanks blanks) (isValue : Derives .value value) :
      Derives (.part .list) (blanks ++ value)
  | member {blanks key beforeColon beforeValue value : List Char} (isBlanks : Blanks blanks)
      (isKey : IsStringBody key) (isBlanks' : Blanks beforeColon) (isBlanks'' : Blanks beforeValue)
      (isValue : Derives .value value) :
      Derives (.part .object)
        (blanks ++ '"' :: (key ++ '"' :: (beforeColon ++ ':' :: (beforeValue ++ value))))
  | last {bracket : Bracket} {blanks : List Char} (isBlanks : Blanks blanks) :
      Derives (.tail bracket) (blanks ++ [bracket.close])
  | more {bracket : Bracket} {blanks next more : List Char} (isBlanks : Blanks blanks)
      (isPart : Derives (.part bracket) next) (isTail : Derives (.tail bracket) more) :
      Derives (.tail bracket) (blanks ++ ',' :: (next ++ more))

/-- A text that is a value, with nothing around it. -/
def IsValue (text : List Char) : Prop :=
  Derives .value text

/-! ## How a value starts and a bracket ends -/

/-- A character that a scalar can start with. -/
structure StartsScalar (c : Char) : Prop where
  notBlank : isBlank c = false
  notBracket : c ≠ '[' ∧ c ≠ '{'
  notListEnd : c ≠ ']'

theorem startsScalar_of_startsNumber {c : Char} (starts : startsNumber c = true) :
    StartsScalar c := by
  have other {d : Char} (notNumber : startsNumber d = false) : c ≠ d :=
    ne_of_startsNumber starts notNumber
  refine ⟨?_, ⟨other rfl, other rfl⟩, other rfl⟩
  simp only [isBlank, Bool.or_eq_false_iff, beq_eq_false_iff_ne]
  exact ⟨⟨⟨other rfl, other rfl⟩, other rfl⟩, other rfl⟩

theorem IsScalarText.exists_cons {text : List Char} (isScalar : IsScalarText text) :
    ∃ c more, text = c :: more ∧ StartsScalar c := by
  cases isScalar with
  | null => exact ⟨_, _, rfl, by decide, by decide, by decide⟩
  | true => exact ⟨_, _, rfl, by decide, by decide, by decide⟩
  | false => exact ⟨_, _, rfl, by decide, by decide, by decide⟩
  | string isBody => exact ⟨_, _, rfl, by decide, by decide, by decide⟩
  | number isNumber =>
    obtain ⟨n, isNumeral⟩ := isNumber
    obtain ⟨c, more, rfl, starts⟩ := isNumeral.exists_cons
    exact ⟨c, more, rfl, startsScalar_of_startsNumber starts⟩

/-- A value starts with no blank, and with no end of a list. -/
theorem IsValue.exists_cons {text : List Char} (isValue : IsValue text) :
    ∃ c more, text = c :: more ∧ isBlank c = false ∧ c ≠ ']' := by
  cases isValue with
  | scalar isScalar =>
    obtain ⟨c, more, rfl, starts⟩ := isScalar.exists_cons
    exact ⟨c, more, rfl, starts.notBlank, starts.notListEnd⟩
  | @nested bracket text _ =>
    cases bracket with
    | list => exact ⟨_, _, rfl, by decide, by decide⟩
    | object => exact ⟨_, _, rfl, by decide, by decide⟩

theorem Bracket.notBlank_opening (bracket : Bracket) : isBlank bracket.opening = false := by
  cases bracket <;> rfl

theorem Bracket.startsNumber_opening (bracket : Bracket) :
    startsNumber bracket.opening = false := by
  cases bracket <;> rfl

theorem Bracket.notBlank_close (bracket : Bracket) : isBlank bracket.close = false := by
  cases bracket <;> rfl

theorem Bracket.eq_of_opening_eq {bracket bracket' : Bracket}
    (same : bracket.opening = bracket'.opening) : bracket = bracket' := by
  revert same
  cases bracket <;> cases bracket' <;> decide

/-- A part starts with no end of its bracket. -/
theorem Derives.exists_of_part {bracket : Bracket} {text : List Char}
    (isPart : Derives (.part bracket) text) :
    ∃ blanks c more, text = blanks ++ c :: more ∧ Blanks blanks ∧ isBlank c = false ∧
      c ≠ bracket.close := by
  cases isPart with
  | item isBlanks isValue =>
    obtain ⟨c, more, rfl, notBlank, notEnd⟩ := IsValue.exists_cons isValue
    exact ⟨_, c, more, rfl, isBlanks, notBlank, notEnd⟩
  | member isBlanks _ _ _ _ => exact ⟨_, _, _, rfl, isBlanks, by decide, by decide⟩

theorem separated_append {blanks : List Char} (isBlanks : Blanks blanks) {c : Char}
    (isSep : isSeparator c = true) (text : List Char) : Separated (blanks ++ c :: text) := by
  cases blanks with
  | nil => exact separated_cons isSep
  | cons d blanks =>
    have isBlank := isBlanks d List.mem_cons_self
    exact separated_cons (by simp [isSeparator, isBlank])

theorem Bracket.isSeparator_close (bracket : Bracket) : isSeparator bracket.close = true := by
  cases bracket <;> rfl

theorem Derives.separated_of_tail {bracket : Bracket} {text : List Char}
    (isTail : Derives (.tail bracket) text) (rest : List Char) : Separated (text ++ rest) := by
  cases isTail with
  | last isBlanks =>
    rw [List.append_assoc]
    exact separated_append isBlanks bracket.isSeparator_close rest
  | more isBlanks _ _ =>
    rw [List.append_assoc]
    exact separated_append isBlanks rfl _

/-- What follows the opening bracket of a value, or a part in it, ends with the closing bracket. -/
theorem Derives.exists_append_close {form : Form} {text : List Char} (derives : Derives form text) :
    match form with
    | .value | .part _ => True
    | .opened bracket | .tail bracket => ∃ before, text = before ++ [bracket.close] := by
  induction derives with
  | scalar | nested | item | member => trivial
  | empty => exact ⟨_, rfl⟩
  | last => exact ⟨_, rfl⟩
  | @parts _ first _ _ _ _ ih =>
    obtain ⟨before, rfl⟩ := ih
    exact ⟨first ++ before, (List.append_assoc ..).symm⟩
  | @more _ blanks next _ _ _ _ _ ih =>
    obtain ⟨before, rfl⟩ := ih
    exact ⟨blanks ++ ',' :: (next ++ before), by simp⟩

/-- A value that starts with a bracket ends with it. -/
theorem IsValue.exists_of_opening {bracket : Bracket} {more : List Char}
    (isValue : IsValue (bracket.opening :: more)) :
    ∃ inside, more = inside ++ [bracket.close] := by
  generalize isText : bracket.opening :: more = text at isValue
  cases isValue with
  | scalar isScalar =>
    obtain ⟨c, behind, rfl, starts⟩ := isScalar.exists_cons
    obtain ⟨rfl, -⟩ := List.cons.inj isText
    cases bracket with
    | list => exact absurd rfl starts.notBracket.1
    | object => exact absurd rfl starts.notBracket.2
  | @nested opened inside derives =>
    obtain ⟨same, rfl⟩ := List.cons.inj isText
    obtain ⟨before, rfl⟩ := derives.exists_append_close
    exact ⟨before, by rw [Bracket.eq_of_opening_eq same]⟩

/-! ## Passing over a value -/

/-- What follows a value does not belong to it; it could only if the value is a number. -/
def ValueEnds (value rest : List Char) : Prop :=
  ∀ n, IsNumeral value n → NumeralEnds n rest

theorem Separated.valueEnds {rest : List Char} (separated : Separated rest) (value : List Char) :
    ValueEnds value rest :=
  fun n _ => separated.numeralEnds n

theorem passScalar_append {text rest : List Char} (isScalar : IsScalarText text)
    (ends : ValueEnds text rest) : passScalar (text ++ rest) = .ok rest := by
  cases isScalar with
  | null => exact readWord_append ['u', 'l', 'l'] rest
  | true => exact readWord_append ['r', 'u', 'e'] rest
  | false => exact readWord_append ['a', 'l', 's', 'e'] rest
  | @string body isBody =>
    have passed : passString (body ++ '"' :: rest) = .ok rest :=
      passString_eq_ok_iff.2 ⟨body, rfl, isBody⟩
    simp [passScalar, passed]
  | number isNumber =>
    obtain ⟨n, isNumeral⟩ := isNumber
    have passed := passNumber_eq_ok_iff.2 ⟨text, n, rfl, isNumeral, ends n isNumeral⟩
    obtain ⟨c, more, rfl, starts⟩ := isNumeral.exists_cons
    have other {d : Char} (notNumber : startsNumber d = false) : c ≠ d :=
      ne_of_startsNumber starts notNumber
    rw [List.cons_append] at passed ⊢
    simp only [passScalar, if_neg (other (d := 'n') rfl), if_neg (other (d := 't') rfl),
      if_neg (other (d := 'f') rfl), if_neg (other (d := '"') rfl), starts, if_true, passed]

theorem skipValue_blanks {blanks : List Char} (isBlanks : Blanks blanks) (frames : List Bracket)
    (text : List Char) : skipValue frames (blanks ++ text) = skipValue frames text := by
  rw [skipValue_eq, skipValue_eq, skipBlanks_append isBlanks]

theorem skipValue_scalar {text : List Char} (isScalar : IsScalarText text) (frames : List Bracket)
    {rest : List Char} (ends : ValueEnds text rest) :
    skipValue frames (text ++ rest) = skipAfter frames rest := by
  have passed := passScalar_append isScalar ends
  obtain ⟨c, more, rfl, starts⟩ := isScalar.exists_cons
  rw [List.cons_append] at passed ⊢
  simp only [skipValue_eq, skipBlanks_cons starts.notBlank, if_neg starts.notBracket.1,
    if_neg starts.notBracket.2, passed, Except.bind]

theorem skipValue_opening (bracket : Bracket) (frames : List Bracket) (text : List Char) :
    skipValue frames (bracket.opening :: text) = skipFirst bracket frames text := by
  cases bracket with
  | list => rw [Bracket.opening, skipValue_eq]; rfl
  | object => rw [Bracket.opening, skipValue_eq]; rfl

theorem passKey_append {blanks key beforeColon : List Char} (isBlanks : Blanks blanks)
    (isKey : IsStringBody key) (isBlanks' : Blanks beforeColon) (rest : List Char) :
    passKey (blanks ++ '"' :: (key ++ '"' :: (beforeColon ++ ':' :: rest))) = .ok rest := by
  have passed : passString (key ++ '"' :: (beforeColon ++ ':' :: rest)) =
      .ok (beforeColon ++ ':' :: rest) := passString_eq_ok_iff.2 ⟨key, rfl, isKey⟩
  have colon : skipBlanks (':' :: rest) = ':' :: rest := skipBlanks_cons rfl
  have quote {text : List Char} : skipBlanks ('"' :: text) = '"' :: text := skipBlanks_cons rfl
  simp only [passKey, skipBlanks_append isBlanks, quote, passed, Except.bind, if_true, readColon,
    skipBlanks_append isBlanks', colon]

/-- What passing over a text of each form comes to: going on behind it. -/
def Skips : Form → List Char → Prop
  | .value, text => ∀ frames rest, ValueEnds text rest →
      skipValue frames (text ++ rest) = skipAfter frames rest
  | .opened bracket, text => ∀ frames rest,
      skipFirst bracket frames (text ++ rest) = skipAfter frames rest
  | .part bracket, text => ∀ frames rest, Separated rest →
      skipPart bracket frames (text ++ rest) = skipAfter (bracket :: frames) rest
  | .tail bracket, text => ∀ frames rest,
      skipAfter (bracket :: frames) (text ++ rest) = skipAfter frames rest

theorem Derives.skips {form : Form} {text : List Char} (derives : Derives form text) :
    Skips form text := by
  induction derives with
  | scalar isScalar => exact fun frames rest ends => skipValue_scalar isScalar frames ends
  | @nested bracket text _ ih =>
    intro frames rest _
    rw [List.cons_append, skipValue_opening]
    exact ih frames rest
  | @empty bracket blanks isBlanks =>
    intro frames rest
    have front : skipBlanks (bracket.close :: rest) = bracket.close :: rest :=
      skipBlanks_cons bracket.notBlank_close
    simp [skipFirst_eq, skipBlanks_append isBlanks, front]
  | @parts bracket first more isPart isTail ihPart ihTail =>
    intro frames rest
    have goesOn := ihPart frames (more ++ rest) (isTail.separated_of_tail rest)
    obtain ⟨blanks, c, behind, rfl, isBlanks, notBlank, notClose⟩ := isPart.exists_of_part
    rw [skipFirst_eq, List.append_assoc, List.append_assoc, List.cons_append,
      skipBlanks_append isBlanks, skipBlanks_cons notBlank]
    simp only [if_neg notClose]
    rw [List.append_assoc, List.cons_append] at goesOn
    rw [goesOn]
    exact ihTail frames rest
  | @item blanks value isBlanks _ ih =>
    intro frames rest separated
    rw [skipPart_list, List.append_assoc, skipValue_blanks isBlanks]
    exact ih (.list :: frames) rest (separated.valueEnds value)
  | @member blanks key beforeColon beforeValue value isBlanks isKey isBlanks' isBlanks'' _ ih =>
    intro frames rest separated
    have passed := passKey_append isBlanks isKey isBlanks' (beforeValue ++ (value ++ rest))
    have value := ih (.object :: frames) rest (separated.valueEnds value)
    simp only [List.append_assoc, List.cons_append, skipPart_object, passed, Except.bind,
      skipValue_blanks isBlanks'', value]
  | @last bracket blanks isBlanks =>
    intro frames rest
    have front : skipBlanks (bracket.close :: rest) = bracket.close :: rest :=
      skipBlanks_cons bracket.notBlank_close
    have notComma : bracket.close ≠ ',' := by cases bracket <;> decide
    simp [skipAfter_cons, skipBlanks_append isBlanks, front, notComma]
  | @more bracket blanks next more isBlanks _ isTail ihPart ihTail =>
    intro frames rest
    have front : skipBlanks (',' :: (next ++ (more ++ rest))) = ',' :: (next ++ (more ++ rest)) :=
      skipBlanks_cons rfl
    have goesOn := ihPart frames (more ++ rest) (isTail.separated_of_tail rest)
    rw [List.append_assoc, List.cons_append, List.append_assoc, skipAfter_cons,
      skipBlanks_append isBlanks, front]
    simp only [if_true]
    rw [goesOn]
    exact ihTail frames rest

/-! ## What is passed over -/

theorem eq_append_of_readWord {word text rest : List Char} (read : readWord word text = .ok rest) :
    text = word ++ rest := by
  induction word generalizing text with
  | nil =>
    cases read
    rfl
  | cons w word ih =>
    cases text with
    | nil => cases read
    | cons c text =>
      simp only [readWord] at read
      split at read
      · rename_i same
        rw [same, ih read]
        rfl
      · cases read

theorem valueEnds_of_cons {c : Char} (notNumber : startsNumber c = false) (more rest : List Char) :
    ValueEnds (c :: more) rest := by
  intro n isNumeral
  obtain ⟨d, behind, same, starts⟩ := isNumeral.exists_cons
  exact absurd (List.cons.inj same).1.symm (ne_of_startsNumber starts notNumber)

theorem exists_of_passNumber {text rest : List Char} (passed : passNumber text = .ok rest) :
    ∃ value, text = value ++ rest ∧ IsScalarText value ∧ ValueEnds value rest := by
  obtain ⟨written, n, isText, isNumeral, ends⟩ := passNumber_eq_ok_iff.1 passed
  refine ⟨written, isText, .number ⟨n, isNumeral⟩, fun n' isNumeral' => ?_⟩
  rw [isNumeral'.unique isNumeral]
  exact ends

theorem isValue_of_passNumber {text : List Char} (passed : passNumber text = .ok []) :
    IsValue text := by
  obtain ⟨value, isText, isScalar, -⟩ := exists_of_passNumber passed
  rw [List.append_nil] at isText
  rw [isText]
  exact .scalar isScalar

/-- What is passed over without a bracket is a scalar. -/
theorem exists_of_passScalar {text rest : List Char} (passed : passScalar text = .ok rest) :
    ∃ value, text = value ++ rest ∧ IsScalarText value ∧ ValueEnds value rest := by
  unfold passScalar at passed
  split at passed
  · cases passed
  · split at passed
    · rename_i isN
      rw [isN, eq_append_of_readWord passed]
      exact ⟨_, rfl, .null, valueEnds_of_cons rfl _ _⟩
    split at passed
    · rename_i isT
      rw [isT, eq_append_of_readWord passed]
      exact ⟨_, rfl, .true, valueEnds_of_cons rfl _ _⟩
    split at passed
    · rename_i isF
      rw [isF, eq_append_of_readWord passed]
      exact ⟨_, rfl, .false, valueEnds_of_cons rfl _ _⟩
    split at passed
    · rename_i isQuote
      obtain ⟨body, rfl, isBody⟩ := passString_eq_ok_iff.1 passed
      rw [isQuote]
      exact ⟨'"' :: (body ++ ['"']), by simp, .string isBody, valueEnds_of_cons rfl _ _⟩
    split at passed
    · exact exists_of_passNumber passed
    · cases passed

theorem exists_of_readColon {text rest : List Char} (read : readColon text = .ok rest) :
    ∃ blanks, text = blanks ++ ':' :: rest ∧ Blanks blanks := by
  unfold readColon at read
  split at read
  · cases read
  · rename_i front
    split at read
    · rename_i isColon
      cases read
      obtain ⟨blanks, rfl, isBlanks, -⟩ := skipBlanks_eq_cons_iff.1 front
      rw [isColon]
      exact ⟨blanks, rfl, isBlanks⟩
    · cases read

theorem exists_of_passKey {text rest : List Char} (passed : passKey text = .ok rest) :
    ∃ blanks key beforeColon, text = blanks ++ '"' :: (key ++ '"' :: (beforeColon ++ ':' :: rest)) ∧
      Blanks blanks ∧ IsStringBody key ∧ Blanks beforeColon := by
  unfold passKey at passed
  split at passed
  · cases passed
  · rename_i front
    obtain ⟨blanks, rfl, isBlanks, -⟩ := skipBlanks_eq_cons_iff.1 front
    split at passed
    · rename_i isQuote
      obtain ⟨middle, passedKey, colon⟩ := bind_eq_ok.1 passed
      obtain ⟨key, rfl, isKey⟩ := passString_eq_ok_iff.1 passedKey
      obtain ⟨beforeColon, rfl, isBlanks'⟩ := exists_of_readColon colon
      rw [isQuote]
      exact ⟨blanks, key, beforeColon, rfl, isBlanks, isKey, isBlanks'⟩
    · cases passed

/-- What is passed over from each place on, if the text is no longer than `size`: a text of the form,
and then what the open brackets still need. -/
structure Passed (size : Nat) : Prop where
  value : ∀ {frames : List Bracket} {text rest : List Char}, text.length ≤ size →
    skipValue frames text = .ok rest →
      ∃ blanks value middle, text = blanks ++ (value ++ middle) ∧ Blanks blanks ∧ IsValue value ∧
        ValueEnds value middle ∧ skipAfter frames middle = .ok rest
  opened : ∀ {bracket : Bracket} {frames : List Bracket} {text rest : List Char},
    text.length ≤ size → skipFirst bracket frames text = .ok rest →
      ∃ inside middle, text = inside ++ middle ∧ Derives (.opened bracket) inside ∧
        skipAfter frames middle = .ok rest
  part : ∀ {bracket : Bracket} {frames : List Bracket} {text rest : List Char},
    text.length ≤ size → skipPart bracket frames text = .ok rest →
      ∃ part middle, text = part ++ middle ∧ Derives (.part bracket) part ∧
        skipAfter (bracket :: frames) middle = .ok rest
  tail : ∀ {bracket : Bracket} {frames : List Bracket} {text rest : List Char},
    text.length ≤ size → skipAfter (bracket :: frames) text = .ok rest →
      ∃ tail middle, text = tail ++ middle ∧ Derives (.tail bracket) tail ∧
        skipAfter frames middle = .ok rest

section Passing

variable {size : Nat} {bracket : Bracket} {frames : List Bracket} {text rest : List Char}

theorem length_lt_of_skipBlanks {c : Char} (front : skipBlanks text = c :: rest) :
    rest.length < text.length := by
  obtain ⟨blanks, rfl, -, -⟩ := skipBlanks_eq_cons_iff.1 front
  simp only [List.length_append, List.length_cons]
  omega

theorem passed_value (smaller : ∀ m < size, Passed m) (fits : text.length ≤ size)
    (skipped : skipValue frames text = .ok rest) :
    ∃ blanks value middle, text = blanks ++ (value ++ middle) ∧ Blanks blanks ∧ IsValue value ∧
      ValueEnds value middle ∧ skipAfter frames middle = .ok rest := by
  have nested {bracket : Bracket} {inside : List Char}
      (front : skipBlanks text = bracket.opening :: inside)
      (skippedInside : skipFirst bracket frames inside = .ok rest) :
      ∃ blanks value middle, text = blanks ++ (value ++ middle) ∧ Blanks blanks ∧ IsValue value ∧
        ValueEnds value middle ∧ skipAfter frames middle = .ok rest := by
    have shorter := length_lt_of_skipBlanks front
    obtain ⟨blanks, rfl, isBlanks, -⟩ := skipBlanks_eq_cons_iff.1 front
    obtain ⟨inner, middle, rfl, derives, goesOn⟩ :=
      (smaller _ (Nat.lt_of_lt_of_le shorter fits)).opened (Nat.le_refl _) skippedInside
    exact ⟨blanks, bracket.opening :: inner, middle, rfl, isBlanks, .nested derives,
      valueEnds_of_cons bracket.startsNumber_opening _ _, goesOn⟩
  rw [skipValue_eq] at skipped
  split at skipped
  · cases skipped
  · rename_i c inside front
    split at skipped
    · rename_i isList
      have front : skipBlanks text = Bracket.list.opening :: inside := by
        rw [front, isList]
        rfl
      exact nested front skipped
    split at skipped
    · rename_i isObject
      have front : skipBlanks text = Bracket.object.opening :: inside := by
        rw [front, isObject]
        rfl
      exact nested front skipped
    obtain ⟨middle, passed, goesOn⟩ := bind_eq_ok.1 skipped
    obtain ⟨blanks, rfl, isBlanks, -⟩ := skipBlanks_eq_cons_iff.1 front
    obtain ⟨value, isText, isScalar, ends⟩ := exists_of_passScalar passed
    rw [isText]
    exact ⟨blanks, value, middle, rfl, isBlanks, .scalar isScalar, ends, goesOn⟩

theorem passed_tail (smaller : ∀ m < size, Passed m) (fits : text.length ≤ size)
    (skipped : skipAfter (bracket :: frames) text = .ok rest) :
    ∃ tail middle, text = tail ++ middle ∧ Derives (.tail bracket) tail ∧
      skipAfter frames middle = .ok rest := by
  rw [skipAfter_cons] at skipped
  split at skipped
  · cases skipped
  · rename_i c behind front
    have shorter := length_lt_of_skipBlanks front
    obtain ⟨blanks, rfl, isBlanks, -⟩ := skipBlanks_eq_cons_iff.1 front
    have passed := smaller _ (Nat.lt_of_lt_of_le shorter fits)
    split at skipped
    · rename_i isComma
      obtain ⟨part, middle, rfl, isPart, goesOn⟩ := passed.part (Nat.le_refl _) skipped
      have fits' : middle.length ≤ (part ++ middle).length := by simp
      obtain ⟨tail, last, rfl, isTail, goesOn⟩ := passed.tail fits' goesOn
      rw [isComma]
      exact ⟨blanks ++ ',' :: (part ++ tail), last, by simp, .more isBlanks isPart isTail, goesOn⟩
    split at skipped
    · rename_i isClose
      rw [isClose]
      exact ⟨blanks ++ [bracket.close], behind, by simp, .last isBlanks, skipped⟩
    · cases skipped

theorem passed_part (smaller : ∀ m < size, Passed m) (fits : text.length ≤ size)
    (skipped : skipPart bracket frames text = .ok rest) :
    ∃ part middle, text = part ++ middle ∧ Derives (.part bracket) part ∧
      skipAfter (bracket :: frames) middle = .ok rest := by
  cases bracket with
  | list =>
    rw [skipPart_list] at skipped
    obtain ⟨blanks, value, middle, rfl, isBlanks, isValue, -, goesOn⟩ :=
      passed_value smaller fits skipped
    exact ⟨blanks ++ value, middle, by simp, .item isBlanks isValue, goesOn⟩
  | object =>
    rw [skipPart_object] at skipped
    obtain ⟨behind, passedKey, skippedValue⟩ := bind_eq_ok.1 skipped
    have shorter := (passKey_rest passedKey).shorter
    obtain ⟨blanks, key, beforeColon, rfl, isBlanks, isKey, isBlanks'⟩ :=
      exists_of_passKey passedKey
    obtain ⟨beforeValue, value, middle, rfl, isBlanks'', isValue, -, goesOn⟩ :=
      (smaller _ (Nat.lt_of_lt_of_le shorter fits)).value (Nat.le_refl _) skippedValue
    exact ⟨_, middle, by simp, .member isBlanks isKey isBlanks' isBlanks'' isValue, goesOn⟩

theorem passed_opened (smaller : ∀ m < size, Passed m) (fits : text.length ≤ size)
    (skipped : skipFirst bracket frames text = .ok rest) :
    ∃ inside middle, text = inside ++ middle ∧ Derives (.opened bracket) inside ∧
      skipAfter frames middle = .ok rest := by
  rw [skipFirst_eq] at skipped
  split at skipped
  · cases skipped
  · rename_i c behind front
    split at skipped
    · rename_i isClose
      obtain ⟨blanks, rfl, isBlanks, -⟩ := skipBlanks_eq_cons_iff.1 front
      rw [isClose]
      exact ⟨blanks ++ [bracket.close], behind, by simp, .empty isBlanks, skipped⟩
    · obtain ⟨part, middle, rfl, isPart, goesOn⟩ := passed_part smaller fits skipped
      have fits' : middle.length ≤ size := by
        simp only [List.length_append] at fits
        omega
      obtain ⟨tail, last, rfl, isTail, goesOn⟩ := passed_tail smaller fits' goesOn
      exact ⟨part ++ tail, last, by simp, .parts isPart isTail, goesOn⟩

theorem passed (size : Nat) : Passed size := by
  induction size using Nat.strongRecOn with
  | _ size smaller =>
    exact ⟨passed_value smaller, passed_opened smaller, passed_part smaller, passed_tail smaller⟩

/-- **Just a value is passed over**, with the blanks in front of it. -/
theorem skip_eq_ok_iff :
    skip text = .ok rest ↔
      ∃ blanks value, text = blanks ++ (value ++ rest) ∧ Blanks blanks ∧ IsValue value ∧
        ValueEnds value rest := by
  constructor
  · intro skipped
    obtain ⟨blanks, value, middle, isText, isBlanks, isValue, ends, goesOn⟩ :=
      (passed text.length).value (Nat.le_refl _) skipped
    rw [skipAfter_nil] at goesOn
    cases goesOn
    exact ⟨blanks, value, isText, isBlanks, isValue, ends⟩
  · rintro ⟨blanks, value, rfl, isBlanks, isValue, ends⟩
    rw [skip, skipValue_blanks isBlanks]
    exact (isValue.skips [] rest ends).trans (skipAfter_nil rest)

/-- What is passed over up to its end is a value, if it starts with no blank. -/
theorem isValue_of_skip (skipped : skip text = .ok []) (noBlanks : skipBlanks text = text) :
    IsValue text := by
  obtain ⟨blanks, value, isText, isBlanks, isValue, -⟩ := skip_eq_ok_iff.1 skipped
  rw [List.append_nil] at isText
  have isAll : skipBlanks text = value := by
    obtain ⟨c, more, rfl, notBlank, -⟩ := isValue.exists_cons
    rw [isText, skipBlanks_append isBlanks, skipBlanks_cons notBlank]
  rwa [← noBlanks, isAll]

/-- A value that is passed over by itself is passed over inside any brackets. -/
theorem skipValue_of_skip (skipped : skip text = .ok rest) (frames : List Bracket) :
    skipValue frames text = skipAfter frames rest := by
  obtain ⟨blanks, value, rfl, isBlanks, isValue, ends⟩ := skip_eq_ok_iff.1 skipped
  rw [skipValue_blanks isBlanks]
  exact isValue.skips frames rest ends

end Passing

end WalletView.Json
