/-
# Proofs.Json.FormOnly — problems with the form of a text

Most of what reads a text knows of its form alone: a text can end too early for it, or be no JSON,
but not have the wrong shape.  So it is with words, strings and numbers, and with all that is passed
over.
-/
import WalletView.Json.Skip

set_option autoImplicit false

namespace WalletView.Json

/-- If there is a problem, it is not one of shape. -/
def FormOnly {α : Type} (x : Except ReadError α) : Prop :=
  ∀ e, x = .error e → e.category ≠ .data

section FormOnly

variable {α β : Type}

theorem formOnly_ok (a : α) : FormOnly (.ok a) :=
  nofun

theorem formOnly_error {e : ReadError} (isForm : e.category ≠ .data) :
    FormOnly (.error e : Except ReadError α) := by
  rintro _ ⟨⟩
  exact isForm

theorem FormOnly.bind {x : Except ReadError α} {f : α → Except ReadError β} (first : FormOnly x)
    (then_ : ∀ a, FormOnly (f a)) : FormOnly (x.bind f) := by
  cases x with
  | error e => exact formOnly_error (first e rfl)
  | ok a => exact then_ a

theorem FormOnly.map {x : Except ReadError α} (isForm : FormOnly x) (f : α → β) :
    FormOnly (x.map f) := by
  cases x with
  | error e => exact formOnly_error (isForm e rfl)
  | ok a => exact formOnly_ok (f a)

/-! ## Words and strings -/

theorem readWord_formOnly (word text : List Char) : FormOnly (readWord word text) := by
  induction word generalizing text with
  | nil => exact formOnly_ok text
  | cons w word ih =>
    cases text with
    | nil => exact formOnly_error (by decide)
    | cons c text =>
      rw [readWord]
      split
      · exact ih text
      · exact formOnly_error (by decide)

theorem readCodeUnit_formOnly (text : List Char) : FormOnly (readCodeUnit text) := by
  unfold readCodeUnit
  split
  · split
    · exact formOnly_ok _
    · exact formOnly_error (by decide)
  · split
    · exact formOnly_error (by decide)
    · exact formOnly_error (by decide)

theorem readPair_formOnly (high : Nat) (text : List Char) : FormOnly (readPair high text) := by
  unfold readPair
  split
  · exact formOnly_error (by decide)
  · exact formOnly_error (by decide)
  · split
    · rename_i e isError
      exact formOnly_error (readCodeUnit_formOnly _ e isError)
    · split
      · exact formOnly_ok _
      · exact formOnly_error (by decide)
  · exact formOnly_error (by decide)

theorem readNumbered_formOnly (text : List Char) : FormOnly (readNumbered text) := by
  unfold readNumbered
  split
  · rename_i e isError
    exact formOnly_error (readCodeUnit_formOnly _ e isError)
  · split
    · exact formOnly_error (by decide)
    split
    · exact readPair_formOnly _ _
    · exact formOnly_ok _

theorem readEscape_formOnly (text : List Char) : FormOnly (readEscape text) := by
  unfold readEscape
  split
  · exact formOnly_error (by decide)
  · split
    · exact formOnly_ok _
    split
    · exact readNumbered_formOnly _
    · exact formOnly_error (by decide)

theorem passEscape_formOnly (text : List Char) : FormOnly (passEscape text) := by
  unfold passEscape
  split
  · exact formOnly_error (by decide)
  · split
    · exact formOnly_ok _
    split
    · exact (readCodeUnit_formOnly _).map _
    · exact formOnly_error (by decide)

theorem readCharacters_formOnly (text : List Char) : FormOnly (readCharacters text) := by
  fun_induction readCharacters text with
  | case1 => exact formOnly_error (by decide)
  | case2 => exact formOnly_ok _
  | case3 text e isError => exact formOnly_error (readEscape_formOnly text e isError)
  | case4 _ _ _ _ _ _ ih => exact ih.map _
  | case5 => exact formOnly_error (by decide)
  | case6 _ _ _ _ _ ih => exact ih.map _

theorem readString_formOnly (text : List Char) : FormOnly (readString text) :=
  (readCharacters_formOnly text).map _

theorem passString_formOnly (text : List Char) : FormOnly (passString text) := by
  fun_induction passString text with
  | case1 => exact formOnly_error (by decide)
  | case2 => exact formOnly_ok _
  | case3 text e isError => exact formOnly_error (passEscape_formOnly text e isError)
  | case4 _ _ _ _ _ ih => exact ih
  | case5 => exact formOnly_error (by decide)
  | case6 _ _ _ _ _ ih => exact ih

/-! ## Numbers -/

section Numbers

variable {atEnd : ReadError}

theorem readDigits_formOnly (isForm : atEnd.category ≠ .data) (text : List Char) :
    FormOnly (readDigits atEnd text) := by
  unfold readDigits
  split
  · exact formOnly_error isForm
  · exact formOnly_error (by decide)
  · exact formOnly_ok _

theorem readWhole_formOnly (isForm : atEnd.category ≠ .data) (text : List Char) :
    FormOnly (readWhole atEnd text) := by
  unfold readWhole
  split
  · split
    · exact formOnly_ok _
    · exact formOnly_error (by decide)
  · exact readDigits_formOnly isForm _

theorem readFraction_formOnly (isForm : atEnd.category ≠ .data) (text : List Char) :
    FormOnly (readFraction atEnd text) := by
  unfold readFraction
  split
  · exact readDigits_formOnly isForm _
  · exact formOnly_ok _

theorem readPower_formOnly (isForm : atEnd.category ≠ .data) (text : List Char) :
    FormOnly (readPower atEnd text) := by
  unfold readPower
  split
  · exact formOnly_ok _
  · split
    · exact (readDigits_formOnly isForm _).map _
    · exact formOnly_ok _

theorem readNumeral_formOnly (isForm : atEnd.category ≠ .data) (text : List Char) :
    FormOnly (readNumeral atEnd text) := by
  have unsigned (negative : Bool) (text : List Char) :
      FormOnly (readUnsigned atEnd negative text) :=
    (readWhole_formOnly isForm _).bind fun _ =>
      (readFraction_formOnly isForm _).bind fun _ => (readPower_formOnly isForm _).map _
  unfold readNumeral
  split
  · exact unsigned true _
  · exact unsigned false _

theorem readNumber_formOnly (text : List Char) : FormOnly (readNumber text) := by
  refine (readNumeral_formOnly (by decide) text).bind fun (n, rest) => ?_
  dsimp only
  split
  · exact formOnly_ok _
  · exact formOnly_error (by decide)

theorem passNumber_formOnly (text : List Char) : FormOnly (passNumber text) :=
  (readNumeral_formOnly (by decide) text).map _

end Numbers

/-! ## What is passed over -/

theorem readColon_formOnly (text : List Char) : FormOnly (readColon text) := by
  unfold readColon
  split
  · exact formOnly_error (by decide)
  · split
    · exact formOnly_ok _
    · exact formOnly_error (by decide)

theorem passKey_formOnly (text : List Char) : FormOnly (passKey text) := by
  unfold passKey
  split
  · exact formOnly_error (by decide)
  · split
    · exact (passString_formOnly _).bind readColon_formOnly
    · exact formOnly_error (by decide)

theorem passScalar_formOnly (text : List Char) : FormOnly (passScalar text) := by
  unfold passScalar
  split
  · exact formOnly_error (by decide)
  · repeat' split
    · exact readWord_formOnly _ _
    · exact readWord_formOnly _ _
    · exact readWord_formOnly _ _
    · exact passString_formOnly _
    · exact passNumber_formOnly _
    · exact formOnly_error (by decide)

theorem skip_formOnly (text : List Char) : FormOnly (skip text) := by
  suffices all : (∀ frames text, FormOnly (skipValue frames text)) ∧
      (∀ frames text, FormOnly (skipAfter frames text)) ∧
      (∀ frame frames text, FormOnly (skipPart frame frames text)) ∧
      (∀ frame frames text, FormOnly (skipFirst frame frames text)) from all.1 [] text
  have ended : (ReadError.ended .value).category ≠ .data := nofun
  have endedInside (bracket : Bracket) : (ReadError.ended bracket.construct).category ≠ .data := nofun
  have unfinished (bracket : Bracket) : bracket.unfinished.category ≠ .data := by
    cases bracket <;> exact nofun
  apply skipValue.mutual_induct
  case case1 =>
    intro frames text hb
    simpa only [skipValue_eq, hb] using formOnly_error ended
  case case2 =>
    intro frames text next hb _ ih
    simpa only [skipValue_eq, hb, if_true] using ih
  case case3 =>
    intro frames text next hb _ notList ih
    simpa only [skipValue_eq, hb, notList, if_false, if_true] using ih
  case case4 =>
    intro frames text c next hb _ notList notObject e hs
    have isForm := passScalar_formOnly _ e hs
    simpa only [skipValue_eq, hb, notList, notObject, if_false, hs, Except.bind] using formOnly_error isForm
  case case5 =>
    intro frames text c next hb _ notList notObject last hs _ ih
    simpa only [skipValue_eq, hb, notList, notObject, if_false, hs, Except.bind] using ih
  case case6 =>
    intro text
    simpa only [skipAfter_nil] using formOnly_ok text
  case case7 =>
    intro text frame outer hb
    simpa only [skipAfter_cons, hb] using formOnly_error (endedInside frame)
  case case8 =>
    intro text frame outer next hb _ ih
    simpa only [skipAfter_cons, hb, if_true] using ih
  case case9 =>
    intro text frame outer next hb _ notComma ih
    simpa only [skipAfter_cons, hb, notComma, if_false, if_true] using ih
  case case10 =>
    intro text frame outer c next hb _ notComma notClose
    simpa only [skipAfter_cons, hb, notComma, notClose, if_false] using
      formOnly_error (unfinished frame)
  case case11 =>
    intro frames text ih
    simpa only [skipPart_list] using ih
  case case12 =>
    intro frames text e hk
    have isForm := passKey_formOnly text e hk
    simpa only [skipPart_object, hk, Except.bind] using formOnly_error isForm
  case case13 =>
    intro frames text next hk _ ih
    simpa only [skipPart_object, hk, Except.bind] using ih
  case case14 =>
    intro frame frames text hb
    simpa only [skipFirst_eq, hb] using formOnly_error (endedInside frame)
  case case15 =>
    intro frame frames text next hb _ ih
    simpa only [skipFirst_eq, hb, if_true] using ih
  case case16 =>
    intro frame frames text c next hb _ notClose ih
    simpa only [skipFirst_eq, hb, notClose, if_false] using ih

end FormOnly

end WalletView.Json
