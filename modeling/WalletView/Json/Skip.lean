/-
# Json.Skip — passing over a value nobody reads

The value of an unknown member is passed over: its form is checked, its meaning is not.  There
is no limit on nesting, a number may be of any size, and a surrogate may stand alone.  The
brackets still open are kept in a list, the innermost first, so nesting costs no stack.
-/
import WalletView.Json.Text
import WalletView.Json.Numeral

set_option autoImplicit false

namespace WalletView.Json

/-- A bracket that is still open. -/
inductive Bracket where
  | list
  | object
deriving DecidableEq, Repr

namespace Bracket

def close : Bracket → Char
  | list => ']'
  | object => '}'

def construct : Bracket → Construct
  | list => .list
  | object => .object

/-- The problem when neither a comma nor the closing bracket follows a part. -/
def unfinished : Bracket → ReadError
  | list => .expectedListEnd
  | object => .expectedObjectEnd

end Bracket

/-- Reads the colon behind a key. -/
def readColon (text : List Char) : Except ReadError (List Char) :=
  match skipBlanks text with
  | [] => .error (.ended .object)
  | c :: rest => if c = ':' then .ok rest else .error .expectedColon

/-- Checks the form of a key and its colon. -/
def passKey (text : List Char) : Except ReadError (List Char) :=
  match skipBlanks text with
  | [] => .error (.ended .object)
  | c :: rest => if c = '"' then (passString rest).bind readColon else .error .keyNotString

/-- Checks the form of a value that is neither a list nor an object. -/
def passScalar : List Char → Except ReadError (List Char)
  | [] => .error (.ended .value)
  | c :: rest =>
    if c = 'n' then readWord ['u', 'l', 'l'] rest
    else if c = 't' then readWord ['r', 'u', 'e'] rest
    else if c = 'f' then readWord ['a', 'l', 's', 'e'] rest
    else if c = '"' then passString rest
    else if startsNumber c then passNumber (c :: rest)
    else .error .expectedValue

theorem readColon_rest {text rest : List Char} (h : readColon text = .ok rest) :
    Rest text rest := by
  unfold readColon at h
  split at h
  · simp at h
  · rename_i blanks
    split at h
    · simp only [Except.ok.injEq] at h
      subst h
      exact .of_suffix (skipBlanks_suffix text) (blanks ▸ .cons _ _)
    · simp at h

theorem passKey_rest {text rest : List Char} (h : passKey text = .ok rest) : Rest text rest := by
  unfold passKey at h
  split at h
  · simp at h
  · rename_i blanks
    split at h
    · obtain ⟨middle, passed, h⟩ := bind_eq_ok.1 h
      exact .of_suffix (skipBlanks_suffix text)
        (blanks ▸ .consumes ((passString_rest passed).trans (readColon_rest h)).suffix)
    · simp at h

theorem passScalar_rest {text rest : List Char} (h : passScalar text = .ok rest) :
    Rest text rest := by
  unfold passScalar at h
  split at h
  · simp at h
  · repeat' split at h
    · exact .consumes (readWord_suffix h)
    · exact .consumes (readWord_suffix h)
    · exact .consumes (readWord_suffix h)
    · exact .consumes (passString_rest h).suffix
    · exact passNumber_rest h
    · simp at h

mutual

/-- Passes over a value and all that the open brackets still need. -/
def skipValue (frames : List Bracket) (text : List Char) : Except ReadError (List Char) :=
  match hb : skipBlanks text with
  | [] => .error (.ended .value)
  | c :: rest =>
    have : rest.length < text.length := by
      have := (skipBlanks_suffix text).length_le
      simp only [hb, List.length_cons] at this
      omega
    if c = '[' then skipFirst .list frames rest
    else if c = '{' then skipFirst .object frames rest
    else
      match hs : passScalar (c :: rest) with
      | .error e => .error e
      | .ok next =>
        have : next.length < text.length := by
          have := (passScalar_rest hs).shorter
          simp only [List.length_cons] at this
          omega
        skipAfter frames next
termination_by (text.length, 0)

/-- Passes over the first part of a bracket that has just been opened. -/
def skipFirst (frame : Bracket) (frames : List Bracket) (text : List Char) :
    Except ReadError (List Char) :=
  match hb : skipBlanks text with
  | [] => .error (.ended frame.construct)
  | c :: rest =>
    have : rest.length < text.length := by
      have := (skipBlanks_suffix text).length_le
      simp only [hb, List.length_cons] at this
      omega
    if c = frame.close then skipAfter frames rest else skipPart frame frames text
termination_by (text.length, 2)

/-- Passes over an item of a list, or a member of an object. -/
def skipPart (frame : Bracket) (frames : List Bracket) (text : List Char) :
    Except ReadError (List Char) :=
  match frame with
  | .list => skipValue (.list :: frames) text
  | .object =>
    match hk : passKey text with
    | .error e => .error e
    | .ok rest =>
      have := (passKey_rest hk).shorter
      skipValue (.object :: frames) rest
termination_by (text.length, 1)

/-- Passes over what follows a value inside the open brackets. -/
def skipAfter (frames : List Bracket) (text : List Char) : Except ReadError (List Char) :=
  match frames with
  | [] => .ok text
  | frame :: outer =>
    match hb : skipBlanks text with
    | [] => .error (.ended frame.construct)
    | c :: rest =>
      have : rest.length < text.length := by
        have := (skipBlanks_suffix text).length_le
        simp only [hb, List.length_cons] at this
        omega
      if c = ',' then skipPart frame outer rest
      else if c = frame.close then skipAfter outer rest
      else .error frame.unfinished
termination_by (text.length, 0)

end

/-- Passes over one value. -/
def skip (text : List Char) : Except ReadError (List Char) :=
  skipValue [] text

theorem skipValue_eq (frames : List Bracket) (text : List Char) :
    skipValue frames text =
      match skipBlanks text with
      | [] => .error (.ended .value)
      | c :: rest =>
        if c = '[' then skipFirst .list frames rest
        else if c = '{' then skipFirst .object frames rest
        else (passScalar (c :: rest)).bind (skipAfter frames) := by
  rw [skipValue]
  split <;> rename_i hb <;> simp only [hb]
  split
  · rfl
  · split
    · rfl
    · split <;> rename_i hs <;> simp only [hs, Except.bind]

theorem skipFirst_eq (frame : Bracket) (frames : List Bracket) (text : List Char) :
    skipFirst frame frames text =
      match skipBlanks text with
      | [] => .error (.ended frame.construct)
      | c :: rest =>
        if c = frame.close then skipAfter frames rest else skipPart frame frames text := by
  rw [skipFirst]
  split <;> rename_i hb <;> simp only [hb]

theorem skipPart_list (frames : List Bracket) (text : List Char) :
    skipPart .list frames text = skipValue (.list :: frames) text := by
  rw [skipPart]

theorem skipPart_object (frames : List Bracket) (text : List Char) :
    skipPart .object frames text = (passKey text).bind (skipValue (.object :: frames)) := by
  rw [skipPart]
  split <;> rename_i hk <;> simp only [hk, Except.bind]

theorem skipAfter_nil (text : List Char) : skipAfter [] text = .ok text := by
  rw [skipAfter]

theorem skipAfter_cons (frame : Bracket) (outer : List Bracket) (text : List Char) :
    skipAfter (frame :: outer) text =
      match skipBlanks text with
      | [] => .error (.ended frame.construct)
      | c :: rest =>
        if c = ',' then skipPart frame outer rest
        else if c = frame.close then skipAfter outer rest
        else .error frame.unfinished := by
  rw [skipAfter]
  split <;> rename_i hb <;> simp only [hb]

/-- Each of the four steps leaves an end of its text, and all but one use some of it. -/
theorem skip_steps :
    (∀ frames text, ∀ rest, skipValue frames text = .ok rest → Rest text rest) ∧
    (∀ frames text, ∀ rest, skipAfter frames text = .ok rest → rest <:+ text) ∧
    (∀ frame frames text, ∀ rest, skipPart frame frames text = .ok rest → Rest text rest) ∧
    (∀ frame frames text, ∀ rest, skipFirst frame frames text = .ok rest → Rest text rest) := by
  have front {text rest : List Char} {c : Char} (hb : skipBlanks text = c :: rest) :
      Rest text rest := .of_suffix (skipBlanks_suffix text) (hb ▸ .cons _ _)
  apply skipValue.mutual_induct
  case case1 => intro frames text hb rest h; simp [skipValue_eq, hb] at h
  case case2 =>
    intro frames text next hb _ ih rest h
    exact (front hb).trans (ih rest (by simpa [skipValue_eq, hb] using h))
  case case3 =>
    intro frames text next hb _ _ ih rest h
    exact (front hb).trans (ih rest (by simpa [skipValue_eq, hb] using h))
  case case4 =>
    intro frames text c next hb _ notList notObject e hs rest h
    simp [skipValue_eq, hb, notList, notObject, hs, Except.bind] at h
  case case5 =>
    intro frames text c next hb _ notList notObject last hs _ ih rest h
    simp only [skipValue_eq, hb, notList, notObject, hs, Except.bind, if_false] at h
    exact .of_suffix (skipBlanks_suffix text) (hb ▸ (passScalar_rest hs).then_suffix (ih rest h))
  case case6 => intro text rest h; rw [skipAfter_nil] at h; cases h; exact List.suffix_refl _
  case case7 => intro text frame outer hb rest h; simp [skipAfter_cons, hb] at h
  case case8 =>
    intro text frame outer next hb _ ih rest h
    exact ((front hb).trans (ih rest (by simpa [skipAfter_cons, hb] using h))).suffix
  case case9 =>
    intro text frame outer next hb _ notComma ih rest h
    exact (ih rest (by simpa [skipAfter_cons, hb, notComma] using h)).trans (front hb).suffix
  case case10 =>
    intro text frame outer c next hb _ notComma notClose rest h
    simp [skipAfter_cons, hb, notComma, notClose] at h
  case case11 => intro frames text ih rest h; exact ih rest (by rwa [skipPart_list] at h)
  case case12 =>
    intro frames text e hk rest h
    simp [skipPart_object, hk, Except.bind] at h
  case case13 =>
    intro frames text next hk _ ih rest h
    exact (passKey_rest hk).trans (ih rest (by simpa [skipPart_object, hk, Except.bind] using h))
  case case14 => intro frame frames text hb rest h; simp [skipFirst_eq, hb] at h
  case case15 =>
    intro frame frames text next hb _ ih rest h
    exact (front hb).then_suffix (ih rest (by simpa [skipFirst_eq, hb] using h))
  case case16 =>
    intro frame frames text c next hb _ notClose ih rest h
    exact ih rest (by simpa [skipFirst_eq, hb, notClose] using h)

theorem skip_rest {text rest : List Char} (h : skip text = .ok rest) : Rest text rest :=
  skip_steps.1 [] text rest h

end WalletView.Json
