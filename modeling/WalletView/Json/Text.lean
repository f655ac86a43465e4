/-
# Json.Text — the contents of a string

A string runs to the next bare quote.  A backslash starts an escape: one of eight characters,
or `u` and four hexadecimal digits.  A code unit from the surrogate range must be the first
half of a pair whose second half follows at once in the same form; together they name one
character.  Control characters may not stand bare.

`readString` gives the characters meant; `passString` checks only the form, so it lets
surrogates stand alone.  Both start behind the opening quote.
-/
import WalletView.Json.Rest
import WalletView.Text.Bytes
import WalletView.Text.Hexadecimal

set_option autoImplicit false

namespace WalletView.Json

/-- Reads the four digits of a numbered code unit.  The text ends too early only if fewer than
four bytes are left of it. -/
def readCodeUnit : List Char → Except ReadError (Nat × List Char)
  | a :: b :: c :: d :: rest =>
    match Text.hexDigit? a, Text.hexDigit? b, Text.hexDigit? c, Text.hexDigit? d with
    | some a, some b, some c, some d => .ok (((a * 16 + b) * 16 + c) * 16 + d, rest)
    | _, _, _, _ => .error .invalidEscape
  | text => .error (if Text.byteLength text < 4 then .ended .string else .invalidEscape)

def isHighSurrogate (unit : Nat) : Bool :=
  0xd800 ≤ unit && unit ≤ 0xdbff

def isLowSurrogate (unit : Nat) : Bool :=
  0xdc00 ≤ unit && unit ≤ 0xdfff

/-- Reads the second half of the pair that `high` opens. -/
def readPair (high : Nat) : List Char → Except ReadError (Char × List Char)
  | [] => .error (.ended .string)
  | ['\\'] => .error (.ended .string)
  | '\\' :: 'u' :: text =>
    match readCodeUnit text with
    | .error e => .error e
    | .ok (low, rest) =>
      if isLowSurrogate low then
        .ok (Char.ofNat ((high - 0xd800) * 0x400 + (low - 0xdc00) + 0x10000), rest)
      else .error .loneSurrogate
  | _ => .error .unpairedSurrogate

/-- Reads the character that a numbered escape means, from behind its `u`. -/
def readNumbered (text : List Char) : Except ReadError (Char × List Char) :=
  match readCodeUnit text with
  | .error e => .error e
  | .ok (unit, rest) =>
    if isLowSurrogate unit then .error .loneSurrogate
    else if isHighSurrogate unit then readPair unit rest
    else .ok (Char.ofNat unit, rest)

/-- The character that a one-letter escape means. -/
def shortEscape? (c : Char) : Option Char :=
  if c = '"' ∨ c = '\\' ∨ c = '/' then some c
  else if c = 'b' then some '\x08'
  else if c = 'f' then some '\x0c'
  else if c = 'n' then some '\n'
  else if c = 'r' then some '\r'
  else if c = 't' then some '\t'
  else none

/-- Reads the character that an escape means, from behind its backslash. -/
def readEscape : List Char → Except ReadError (Char × List Char)
  | [] => .error (.ended .string)
  | c :: rest =>
    match shortEscape? c with
    | some meant => .ok (meant, rest)
    | none => if c = 'u' then readNumbered rest else .error .invalidEscape

/-- Checks the form of an escape, from behind its backslash. -/
def passEscape : List Char → Except ReadError (List Char)
  | [] => .error (.ended .string)
  | c :: rest =>
    if (shortEscape? c).isSome then .ok rest
    else if c = 'u' then (readCodeUnit rest).map (·.2)
    else .error .invalidEscape

theorem readCodeUnit_suffix {text rest : List Char} {unit : Nat}
    (h : readCodeUnit text = .ok (unit, rest)) : rest <:+ text := by
  unfold readCodeUnit at h
  split at h
  · split at h
    · simp only [Except.ok.injEq, Prod.mk.injEq] at h
      obtain ⟨-, rfl⟩ := h
      exact ⟨[_, _, _, _], rfl⟩
    · simp at h
  · simp at h

theorem readPair_suffix {high : Nat} {text rest : List Char} {c : Char}
    (h : readPair high text = .ok (c, rest)) : rest <:+ text := by
  unfold readPair at h
  split at h
  · simp at h
  · simp at h
  · split at h
    · simp at h
    · rename_i read
      split at h
      · simp only [Except.ok.injEq, Prod.mk.injEq] at h
        obtain ⟨-, rfl⟩ := h
        exact (readCodeUnit_suffix read).trans ⟨['\\', 'u'], rfl⟩
      · simp at h
  · simp at h

theorem readNumbered_suffix {text rest : List Char} {c : Char}
    (h : readNumbered text = .ok (c, rest)) : rest <:+ text := by
  unfold readNumbered at h
  split at h
  · simp at h
  · rename_i read
    split at h
    · simp at h
    · split at h
      · exact (readPair_suffix h).trans (readCodeUnit_suffix read)
      · simp only [Except.ok.injEq, Prod.mk.injEq] at h
        obtain ⟨-, rfl⟩ := h
        exact readCodeUnit_suffix read

theorem readEscape_rest {text rest : List Char} {c : Char} (h : readEscape text = .ok (c, rest)) :
    Rest text rest := by
  unfold readEscape at h
  split at h
  · simp at h
  · split at h
    · simp only [Except.ok.injEq, Prod.mk.injEq] at h
      obtain ⟨-, rfl⟩ := h
      exact .cons _ _
    · split at h
      · exact .consumes (readNumbered_suffix h)
      · simp at h

theorem passEscape_rest {text rest : List Char} (h : passEscape text = .ok rest) :
    Rest text rest := by
  unfold passEscape at h
  split at h
  · simp at h
  · split at h
    · simp only [Except.ok.injEq] at h
      exact h ▸ .cons _ _
    · split at h
      · obtain ⟨⟨unit, _⟩, read, rfl⟩ := map_eq_ok.1 h
        exact .consumes (readCodeUnit_suffix read)
      · simp at h

/-- Reads the characters of a string and its closing quote. -/
def readCharacters : List Char → Except ReadError (List Char × List Char)
  | [] => .error (.ended .string)
  | c :: text =>
    if c = '"' then .ok ([], text)
    else if c = '\\' then
      match h : readEscape text with
      | .error e => .error e
      | .ok (meant, rest) =>
        have := (readEscape_rest h).shorter
        (readCharacters rest).map fun (more, rest) => (meant :: more, rest)
    else if c < ' ' then .error .controlCharacter
    else (readCharacters text).map fun (more, rest) => (c :: more, rest)
termination_by text => text.length

/-- Checks the form of a string up to and with its closing quote. -/
def passString : List Char → Except ReadError (List Char)
  | [] => .error (.ended .string)
  | c :: text =>
    if c = '"' then .ok text
    else if c = '\\' then
      match h : passEscape text with
      | .error e => .error e
      | .ok rest =>
        have := (passEscape_rest h).shorter
        passString rest
    else if c < ' ' then .error .controlCharacter
    else passString text
termination_by text => text.length

/-- Reads a string, from behind its opening quote. -/
def readString (text : List Char) : Outcome String :=
  (readCharacters text).map fun (characters, rest) => (.ofList characters, rest)

theorem readCharacters_rest {text rest characters : List Char}
    (h : readCharacters text = .ok (characters, rest)) : Rest text rest := by
  fun_induction readCharacters text generalizing characters with
  | case1 => simp at h
  | case2 => simp only [Except.ok.injEq, Prod.mk.injEq] at h; exact h.2 ▸ .cons _ _
  | case3 => simp at h
  | case4 text meant next read _ _ ih =>
    obtain ⟨⟨more, last⟩, readMore, same⟩ := map_eq_ok.1 h
    obtain ⟨-, rfl⟩ := Prod.mk.inj same
    exact (Rest.cons _ text).trans ((readEscape_rest read).trans (ih readMore))
  | case5 => simp at h
  | case6 c text _ _ _ ih =>
    obtain ⟨⟨more, last⟩, readMore, same⟩ := map_eq_ok.1 h
    obtain ⟨-, rfl⟩ := Prod.mk.inj same
    exact (Rest.cons c text).trans (ih readMore)

theorem readString_rest {text rest : List Char} {s : String}
    (h : readString text = .ok (s, rest)) : Rest text rest := by
  obtain ⟨⟨characters, last⟩, read, same⟩ := map_eq_ok.1 h
  obtain ⟨-, rfl⟩ := Prod.mk.inj same
  exact readCharacters_rest read

theorem passString_rest {text rest : List Char} (h : passString text = .ok rest) :
    Rest text rest := by
  fun_induction passString text with
  | case1 => simp at h
  | case2 => simp only [Except.ok.injEq] at h; exact h ▸ .cons _ _
  | case3 => simp at h
  | case4 text next read _ _ ih =>
    exact (Rest.cons _ text).trans ((passEscape_rest read).trans (ih h))
  | case5 => simp at h
  | case6 c text _ _ _ ih => exact (Rest.cons c text).trans (ih h)

end WalletView.Json
