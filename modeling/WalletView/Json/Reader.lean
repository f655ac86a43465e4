/-
# Json.Reader — readers of typed values

A reader takes one value off the front of a text and says what it is, or names the first problem
in the order of the text.  It carries the proof that it uses up some of the text, so readers of
lists and maps can run it until their bracket closes.  Blanks may stand in front of every part.

A value of the wrong shape is itself read as far as needed to name it: a broken word or string
is reported as such before its shape is.
-/
import WalletView.Json.Skip

set_option autoImplicit false

namespace WalletView.Json

/-- A reader of one value. -/
structure Reader (α : Type) where
  run : List Char → Outcome α
  rest : ∀ {text rest : List Char} {a : α}, run text = .ok (a, rest) → Rest text rest

/-- The problem with a value that starts with `c` and is not what is expected. -/
def mismatch (expected : Expected) (c : Char) (rest : List Char) : ReadError :=
  let word (letters : List Char) (found : Found) : ReadError :=
    match readWord letters rest with
    | .error e => e
    | .ok _ => .wrongType found expected
  if c = 'n' then word ['u', 'l', 'l'] .null
  else if c = 't' then word ['r', 'u', 'e'] (.boolean true)
  else if c = 'f' then word ['a', 'l', 's', 'e'] (.boolean false)
  else if c = '"' then
    match readString rest with
    | .error e => e
    | .ok (s, _) => .wrongType (.string s) expected
  else if c = '[' then .wrongType .sequence expected
  else if c = '{' then .wrongType .map expected
  else if startsNumber c then
    match readNumber (c :: rest) with
    | .error e => e
    | .ok (.integer n, _) => .wrongType (.integer n) expected
    | .ok (.double x, _) => .wrongType (.double x) expected
  else .expectedValue

namespace Reader

variable {α β : Type}

/-- A reader that looks at the first character of a value and what follows it. -/
def front (read : Char → List Char → Outcome α)
    (suffix : ∀ {c : Char} {text rest : List Char} {a : α},
      read c text = .ok (a, rest) → rest <:+ text) : Reader α where
  run text :=
    match skipBlanks text with
    | [] => .error (.ended .value)
    | c :: rest => read c rest
  rest {text rest a} h := by
    split at h
    · simp at h
    · rename_i blanks
      exact .of_suffix (skipBlanks_suffix text) (blanks ▸ .consumes (suffix h))

/-- A reader of the same texts with another result. -/
def map (f : α → β) (r : Reader α) : Reader β where
  run text := (r.run text).map fun (a, rest) => (f a, rest)
  rest h := by
    obtain ⟨⟨a, last⟩, read, same⟩ := map_eq_ok.1 h
    obtain ⟨-, rfl⟩ := Prod.mk.inj same
    exact r.rest read

/-- Reads a string. -/
def string : Reader String :=
  front (fun c rest => if c = '"' then readString rest else .error (mismatch .string c rest))
    (by
      intro c text rest a h
      split at h
      · exact (readString_rest h).suffix
      · simp at h)

/-- Reads `true` or `false`. -/
def boolean : Reader Bool :=
  front
    (fun c rest =>
      if c = 't' then (readWord ['r', 'u', 'e'] rest).map fun rest => (true, rest)
      else if c = 'f' then (readWord ['a', 'l', 's', 'e'] rest).map fun rest => (false, rest)
      else .error (mismatch .boolean c rest))
    (by
      intro c text rest a h
      split at h
      · obtain ⟨last, read, same⟩ := map_eq_ok.1 h
        obtain ⟨-, rfl⟩ := Prod.mk.inj same
        exact readWord_suffix read
      · split at h
        · obtain ⟨last, read, same⟩ := map_eq_ok.1 h
          obtain ⟨-, rfl⟩ := Prod.mk.inj same
          exact readWord_suffix read
        · simp at h)

/-- The unsigned word that a number is, if it is one. -/
def wordOf : Number → Except ReadError UInt64
  | .integer n => if n < 0 then .error (.wrongValue n .word) else .ok (.ofNat n.toNat)
  | .double x => .error (.wrongType (.double x) .word)

/-- Reads an unsigned word. -/
def word : Reader UInt64 :=
  front
    (fun c rest =>
      if startsNumber c then
        (readNumber (c :: rest)).bind fun (n, last) => (wordOf n).map fun w => (w, last)
      else .error (mismatch .word c rest))
    (by
      intro c text rest a h
      split at h
      · obtain ⟨⟨n, last⟩, read, h⟩ := bind_eq_ok.1 h
        obtain ⟨w, -, same⟩ := map_eq_ok.1 h
        obtain ⟨-, rfl⟩ := Prod.mk.inj same
        exact (readNumber_rest read).suffix_tail
      · simp at h)

/-- Reads `null` as nothing and anything else as what `r` reads. -/
def option (r : Reader α) : Reader (Option α) where
  run text :=
    match skipBlanks text with
    | [] => (r.run text).map fun (a, rest) => (some a, rest)
    | c :: rest =>
      if c = 'n' then (readWord ['u', 'l', 'l'] rest).map fun rest => (none, rest)
      else (r.run text).map fun (a, rest) => (some a, rest)
  rest {text rest a} h := by
    split at h
    · exact (map some r).rest h
    · rename_i blanks
      split at h
      · obtain ⟨last, read, same⟩ := map_eq_ok.1 h
        obtain ⟨-, rfl⟩ := Prod.mk.inj same
        exact .of_suffix (skipBlanks_suffix text) (blanks ▸ .consumes (readWord_suffix read))
      · exact (map some r).rest h

end Reader

/-! ## What stands between the parts of a bracket -/

/-- What comes next inside a bracket: its end, or a part whose text follows. -/
inductive Turn where
  | close (rest : List Char)
  | part (text : List Char)
deriving DecidableEq, Repr

/-- The text left in either case. -/
def Turn.text : Turn → List Char
  | .close rest => rest
  | .part text => text

/-- Looks for the next item of a list. -/
def itemTurn (first : Bool) (text : List Char) : Except ReadError Turn :=
  match skipBlanks text with
  | [] => .error (.ended .list)
  | c :: rest =>
    if c = ']' then .ok (.close rest)
    else if first then .ok (.part (c :: rest))
    else if c = ',' then
      match skipBlanks rest with
      | [] => .error (.ended .value)
      | d :: more => if d = ']' then .error .trailingComma else .ok (.part (d :: more))
    else .error .expectedListEnd

/-- Looks for the next key of an object; its text starts behind the opening quote. -/
def keyTurn (first : Bool) (text : List Char) : Except ReadError Turn :=
  match skipBlanks text with
  | [] => .error (.ended .object)
  | c :: rest =>
    if c = '}' then .ok (.close rest)
    else if first then
      if c = '"' then .ok (.part rest) else .error .keyNotString
    else if c = ',' then
      match skipBlanks rest with
      | [] => .error (.ended .value)
      | d :: more =>
        if d = '"' then .ok (.part more)
        else if d = '}' then .error .trailingComma
        else .error .keyNotString
    else .error .expectedObjectEnd

theorem itemTurn_suffix {first : Bool} {text : List Char} {turn : Turn}
    (h : itemTurn first text = .ok turn) : turn.text <:+ text := by
  have blanks := skipBlanks_suffix text
  unfold itemTurn at h
  split at h
  · simp at h
  · rename_i c rest front
    rw [front] at blanks
    have below : rest <:+ text := (List.suffix_cons c rest).trans blanks
    split at h
    · cases h; exact below
    · split at h
      · cases h; exact blanks
      · split at h
        · have inner := (skipBlanks_suffix rest).trans below
          split at h
          · simp at h
          · rename_i front'
            rw [front'] at inner
            split at h
            · simp at h
            · cases h; exact inner
        · simp at h

theorem keyTurn_suffix {first : Bool} {text : List Char} {turn : Turn}
    (h : keyTurn first text = .ok turn) : turn.text <:+ text := by
  have blanks := skipBlanks_suffix text
  unfold keyTurn at h
  split at h
  · simp at h
  · rename_i c rest front
    rw [front] at blanks
    have below : rest <:+ text := (List.suffix_cons c rest).trans blanks
    split at h
    · cases h; exact below
    · split at h
      · split at h
        · cases h; exact below
        · simp at h
      · split at h
        · have inner := (skipBlanks_suffix rest).trans below
          split at h
          · simp at h
          · rename_i front'
            rw [front'] at inner
            split at h
            · cases h; exact (List.suffix_cons _ _).trans inner
            · split at h <;> simp at h
        · simp at h

/-! ## Lists and maps -/

variable {α : Type}

/-- Reads the items of a list up to and with its closing bracket. -/
def readItems (r : Reader α) (first : Bool) (text : List Char) : Outcome (List α) :=
  match ht : itemTurn first text with
  | .error e => .error e
  | .ok (.close rest) => .ok ([], rest)
  | .ok (.part start) =>
    match hr : r.run start with
    | .error e => .error e
    | .ok (a, rest) =>
      have : rest.length < text.length :=
        Nat.lt_of_lt_of_le (r.rest hr).shorter (itemTurn_suffix ht).length_le
      (readItems r false rest).map fun (more, rest) => (a :: more, rest)
termination_by text.length

/-- Reads a key, its colon and its value, from behind the opening quote of the key. -/
def readMember (r : Reader α) (text : List Char) : Outcome (String × α) :=
  (readString text).bind fun (key, rest) =>
  (readColon rest).bind fun rest =>
  (r.run rest).map fun (a, rest) => ((key, a), rest)

theorem readMember_rest {r : Reader α} {text rest : List Char} {member : String × α}
    (h : readMember r text = .ok (member, rest)) : Rest text rest := by
  obtain ⟨⟨key, afterKey⟩, readKey, h⟩ := bind_eq_ok.1 h
  obtain ⟨afterColon, colon, h⟩ := bind_eq_ok.1 h
  obtain ⟨⟨a, last⟩, readValue, same⟩ := map_eq_ok.1 h
  obtain ⟨-, rfl⟩ := Prod.mk.inj same
  exact (readString_rest readKey).trans ((readColon_rest colon).trans (r.rest readValue))

/-- Reads the members of an object, in order, up to and with its closing brace. -/
def readMembers (r : Reader α) (first : Bool) (text : List Char) :
    Outcome (List (String × α)) :=
  match ht : keyTurn first text with
  | .error e => .error e
  | .ok (.close rest) => .ok ([], rest)
  | .ok (.part start) =>
    match hr : readMember r start with
    | .error e => .error e
    | .ok (member, rest) =>
      have : rest.length < text.length :=
        Nat.lt_of_lt_of_le (readMember_rest hr).shorter (keyTurn_suffix ht).length_le
      (readMembers r false rest).map fun (more, rest) => (member :: more, rest)
termination_by text.length

theorem readItems_eq (r : Reader α) (first : Bool) (text : List Char) :
    readItems r first text =
      (itemTurn first text).bind fun
        | .close rest => .ok ([], rest)
        | .part start =>
          (r.run start).bind fun (a, rest) =>
            (readItems r false rest).map fun (more, rest) => (a :: more, rest) := by
  rw [readItems]
  split <;> rename_i ht <;> simp only [ht, Except.bind]
  split <;> rename_i hr <;> simp only [hr]

theorem readMembers_eq (r : Reader α) (first : Bool) (text : List Char) :
    readMembers r first text =
      (keyTurn first text).bind fun
        | .close rest => .ok ([], rest)
        | .part start =>
          (readMember r start).bind fun (member, rest) =>
            (readMembers r false rest).map fun (more, rest) => (member :: more, rest) := by
  rw [readMembers]
  split <;> rename_i ht <;> simp only [ht, Except.bind]
  split <;> rename_i hr <;> simp only [hr]

theorem readItems_suffix {r : Reader α} {first : Bool} {text rest : List Char} {items : List α}
    (h : readItems r first text = .ok (items, rest)) : rest <:+ text := by
  fun_induction readItems r first text generalizing items with
  | case1 => simp at h
  | case2 first text last turn => cases h; exact itemTurn_suffix turn
  | case3 => simp at h
  | case4 first text start turn a next read _ ih =>
    obtain ⟨⟨more, last⟩, readMore, same⟩ := map_eq_ok.1 h
    obtain ⟨-, rfl⟩ := Prod.mk.inj same
    exact (ih readMore).trans ((r.rest read).suffix.trans (itemTurn_suffix turn))

theorem readMembers_suffix {r : Reader α} {first : Bool} {text rest : List Char}
    {members : List (String × α)} (h : readMembers r first text = .ok (members, rest)) :
    rest <:+ text := by
  fun_induction readMembers r first text generalizing members with
  | case1 => simp at h
  | case2 first text last turn => cases h; exact keyTurn_suffix turn
  | case3 => simp at h
  | case4 first text start turn member next read _ ih =>
    obtain ⟨⟨more, last⟩, readMore, same⟩ := map_eq_ok.1 h
    obtain ⟨-, rfl⟩ := Prod.mk.inj same
    exact (ih readMore).trans ((readMember_rest read).suffix.trans (keyTurn_suffix turn))

namespace Reader

/-- Reads a list.  `room` is how many brackets may still be opened inside one another. -/
def list (inner : Nat → Reader α) (room : Nat) : Reader (List α) :=
  front
    (fun c rest =>
      if c = '[' then
        match room with
        | 0 => .error .tooDeep
        | room + 1 => readItems (inner room) true rest
      else .error (mismatch .sequence c rest))
    (by
      intro c text rest a h
      split at h
      · split at h
        · simp at h
        · exact readItems_suffix h
      · simp at h)

/-- Reads an object whose keys are free: its members in order. -/
def members (expected : Expected) (inner : Nat → Reader α) (room : Nat) :
    Reader (List (String × α)) :=
  front
    (fun c rest =>
      if c = '{' then
        match room with
        | 0 => .error .tooDeep
        | room + 1 => readMembers (inner room) true rest
      else .error (mismatch expected c rest))
    (by
      intro c text rest a h
      split at h
      · split at h
        · simp at h
        · exact readMembers_suffix h
      · simp at h)

/-- Reads a whole text: one value with nothing but blanks around it. -/
def readAll (r : Reader α) (text : List Char) : Except ReadError α :=
  (r.run text).bind fun (a, rest) =>
    if (skipBlanks rest).isEmpty then .ok a else .error .trailingText

end Reader

end WalletView.Json
