/-
# Json.Rest — what is left of a text

Reading works on lists of characters and hands on what it has not used.  `Rest text rest` says
that something has been read off the front of `text` and `rest` is what follows it, which is
what lets a reader be repeated until the text is used up.  The module also holds what every
reader starts from: blanks and the words `null`, `true` and `false`.
-/
import WalletView.Json.Error

set_option autoImplicit false

namespace WalletView.Json

/-- What a read gives: what was read and the rest of the text, or the first problem. -/
abbrev Outcome (α : Type) := Except ReadError (α × List Char)

theorem map_eq_ok {α β : Type} {x : Except ReadError α} {f : α → β} {b : β} :
    x.map f = .ok b ↔ ∃ a, x = .ok a ∧ f a = b := by
  cases x <;> simp [Except.map]

theorem bind_eq_ok {α β : Type} {x : Except ReadError α} {f : α → Except ReadError β} {b : β} :
    x.bind f = .ok b ↔ ∃ a, x = .ok a ∧ f a = .ok b := by
  cases x <;> simp [Except.bind]

/-- `rest` follows a part of `text` that is not empty. -/
structure Rest (text rest : List Char) : Prop where
  suffix : rest <:+ text
  shorter : rest.length < text.length

namespace Rest

theorem cons (c : Char) (rest : List Char) : Rest (c :: rest) rest :=
  ⟨List.suffix_cons c rest, by simp⟩

theorem of_suffix {text middle rest : List Char} (h : middle <:+ text) (h' : Rest middle rest) :
    Rest text rest :=
  ⟨h'.suffix.trans h, Nat.lt_of_lt_of_le h'.shorter h.length_le⟩

theorem then_suffix {text middle rest : List Char} (h : Rest text middle) (h' : rest <:+ middle) :
    Rest text rest :=
  ⟨h'.trans h.suffix, Nat.lt_of_le_of_lt h'.length_le h.shorter⟩

theorem trans {text middle rest : List Char} (h : Rest text middle) (h' : Rest middle rest) :
    Rest text rest :=
  h.then_suffix h'.suffix

theorem consumes {c : Char} {text rest : List Char} (h : rest <:+ text) : Rest (c :: text) rest :=
  (cons c text).then_suffix h

/-- What is read off a text includes its first character. -/
theorem suffix_tail {c : Char} {text rest : List Char} (h : Rest (c :: text) rest) :
    rest <:+ text := by
  rcases List.suffix_cons_iff.1 h.suffix with same | below
  · exact absurd h.shorter (same ▸ Nat.lt_irrefl _)
  · exact below

end Rest

/-- The four characters that may stand between the parts of a text. -/
def isBlank (c : Char) : Bool :=
  c == ' ' || c == '\n' || c == '\t' || c == '\r'

/-- A text without the blanks in front of it. -/
def skipBlanks (text : List Char) : List Char :=
  text.dropWhile isBlank

theorem skipBlanks_suffix (text : List Char) : skipBlanks text <:+ text :=
  List.dropWhile_suffix isBlank

/-- Reads the rest of a word whose first letter settled which word it is. -/
def readWord : (word : List Char) → (text : List Char) → Except ReadError (List Char)
  | [], text => .ok text
  | _ :: _, [] => .error (.ended .value)
  | w :: word, c :: text => if c = w then readWord word text else .error .expectedIdent

theorem readWord_suffix {word text rest : List Char} (h : readWord word text = .ok rest) :
    rest <:+ text := by
  induction word generalizing text with
  | nil => simp only [readWord, Except.ok.injEq] at h; exact h ▸ List.suffix_refl _
  | cons w word ih =>
    cases text with
    | nil => simp [readWord] at h
    | cons c text =>
      simp only [readWord] at h
      split at h
      · exact (ih h).trans (List.suffix_cons c text)
      · simp at h

end WalletView.Json
