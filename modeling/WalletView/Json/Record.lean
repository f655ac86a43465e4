/-
# Json.Record — records described field by field

A record type is described by its fields in order: the name of each, its codec, what it is when
it is missing and whether it is written.  `Codec.record` turns the description into a codec.

* Read from an object, members whose names are not fields are passed over, a field may stand
  once, and after the closing brace the first field that is missing and has no default is named.
* Read from a list, the items are the fields in order; a list that ends early leaves the rest
  to their defaults.
* Written, a record is an object of its fields in order, without those that are left out.
-/
import WalletView.Json.Codec

set_option autoImplicit false

namespace WalletView.Json

/-- One field of a record. -/
structure Field (α : Type) where
  name : String
  codec : Codec α
  /-- What the field is when it does not stand in the text; nothing if it must. -/
  whenMissing : Option α
  isWritten : α → Bool

namespace Field

variable {α : Type}

/-- A field that must stand in the text. -/
def required (name : String) (codec : Codec α) : Field α :=
  ⟨name, codec, none, fun _ => true⟩

/-- A field that may be missing from the text but is always written. -/
def withDefault (name : String) (codec : Codec α) (whenMissing : α) : Field α :=
  ⟨name, codec, some whenMissing, fun _ => true⟩

/-- A field that is written as `null` when there is nothing in it. -/
def nullable (name : String) (codec : Codec α) : Field (Option α) :=
  ⟨name, codec.option, some none, fun _ => true⟩

/-- A field that is left out when there is nothing in it. -/
def optional (name : String) (codec : Codec α) : Field (Option α) :=
  ⟨name, codec.option, some none, Option.isSome⟩

end Field

/-- The values of a record's fields. -/
@[reducible] def Row : List Type → Type
  | [] => Unit
  | α :: types => α × Row types

/-- The values of those fields that have been read. -/
def Draft : List Type → Type
  | [] => Unit
  | α :: types => Option α × Draft types

/-- The fields of a record, in order. -/
inductive Fields : List Type → Type 1 where
  | nil : Fields []
  | cons {α : Type} {types : List Type} (field : Field α) (more : Fields types) :
      Fields (α :: types)

/-- What a key means while a record is read: no field, a field already read, or one that is
still to be read. -/
inductive Slot (δ : Type) where
  | unknown
  | filled (name : String)
  | vacant (reader : (room : Nat) → Reader δ)

def Slot.map {δ ε : Type} (f : δ → ε) : Slot δ → Slot ε
  | .unknown => .unknown
  | .filled name => .filled name
  | .vacant reader => .vacant fun room => (reader room).map f

namespace Fields

/-- The draft in which nothing has been read. -/
def blank : {types : List Type} → Fields types → Draft types
  | _, .nil => ()
  | _, .cons _ more => (none, more.blank)

/-- What a key means for a draft; a field that is read is entered in the draft. -/
def slot : {types : List Type} → Fields types → (key : String) → Draft types → Slot (Draft types)
  | _, .nil, _, _ => .unknown
  | _, .cons field more, key, (value, others) =>
    if key = field.name then
      match value with
      | some _ => .filled field.name
      | none => .vacant fun room => (field.codec.reader room).map fun a => (some a, others)
    else (more.slot key others).map fun others => (value, others)

/-- The row of a draft, its missing fields by default. -/
def complete : {types : List Type} → Fields types → Draft types → Except ReadError (Row types)
  | _, .nil, _ => .ok ()
  | _, .cons field more, (value, others) =>
    match value <|> field.whenMissing with
    | none => .error (.missingField field.name)
    | some a => (more.complete others).map fun row => (a, row)

/-- The members of an object for a row. -/
def members : {types : List Type} → Fields types → Row types → List (String × Json)
  | _, .nil, _ => []
  | _, .cons field more, (a, row) =>
    if field.isWritten a then (field.name, field.codec.encode a) :: more.members row
    else more.members row

variable {types : List Type}

/-- Reads a member of a record into a draft, from behind the opening quote of its key. -/
def readMember (fields : Fields types) (room : Nat) (draft : Draft types) (text : List Char) :
    Outcome (Draft types) :=
  (readString text).bind fun (key, rest) =>
    match fields.slot key draft with
    | .filled name => .error (.duplicateField name)
    | .unknown => (readColon rest).bind fun rest => (skip rest).map fun rest => (draft, rest)
    | .vacant reader => (readColon rest).bind (reader room).run

theorem readMember_rest {fields : Fields types} {room : Nat} {draft after : Draft types}
    {text rest : List Char} (h : fields.readMember room draft text = .ok (after, rest)) :
    Rest text rest := by
  obtain ⟨⟨key, afterKey⟩, readKey, h⟩ := bind_eq_ok.1 h
  have used := readString_rest readKey
  dsimp only at h
  split at h
  · simp at h
  · obtain ⟨afterColon, colon, h⟩ := bind_eq_ok.1 h
    obtain ⟨last, skipped, same⟩ := map_eq_ok.1 h
    obtain ⟨-, rfl⟩ := Prod.mk.inj same
    exact used.trans ((readColon_rest colon).trans (skip_rest skipped))
  · obtain ⟨afterColon, colon, h⟩ := bind_eq_ok.1 h
    exact used.trans ((readColon_rest colon).trans (Reader.rest _ h))

/-- Reads the members of a record up to and with the closing brace. -/
def readMembers (fields : Fields types) (room : Nat) (first : Bool) (draft : Draft types)
    (text : List Char) : Outcome (Draft types) :=
  match ht : keyTurn first text with
  | .error e => .error e
  | .ok (.close rest) => .ok (draft, rest)
  | .ok (.part start) =>
    match hr : fields.readMember room draft start with
    | .error e => .error e
    | .ok (draft, rest) =>
      have : rest.length < text.length :=
        Nat.lt_of_lt_of_le (readMember_rest hr).shorter (keyTurn_suffix ht).length_le
      fields.readMembers room false draft rest
termination_by text.length

theorem readMembers_eq (fields : Fields types) (room : Nat) (first : Bool) (draft : Draft types)
    (text : List Char) :
    fields.readMembers room first draft text =
      (keyTurn first text).bind fun
        | .close rest => .ok (draft, rest)
        | .part start =>
          (fields.readMember room draft start).bind fun (draft, rest) =>
            fields.readMembers room false draft rest := by
  rw [readMembers]
  split <;> rename_i ht <;> simp only [ht, Except.bind]
  split <;> rename_i hr <;> simp only [hr]

theorem readMembers_suffix {fields : Fields types} {room : Nat} {first : Bool}
    {draft after : Draft types} {text rest : List Char}
    (h : fields.readMembers room first draft text = .ok (after, rest)) : rest <:+ text := by
  fun_induction readMembers fields room first draft text with
  | case1 => simp at h
  | case2 first draft text last turn => cases h; exact keyTurn_suffix turn
  | case3 => simp at h
  | case4 first draft text start turn next last read _ ih =>
    exact (ih h).trans ((readMember_rest read).suffix.trans (keyTurn_suffix turn))

/-- The row of defaults for the fields that a list is too short for; `index` is the place of the
first of them. -/
def fill (wrongLength : Nat → ReadError) :
    {types : List Type} → Fields types → (index : Nat) → Except ReadError (Row types)
  | _, .nil, _ => .ok ()
  | _, .cons field more, index =>
    match field.whenMissing with
    | none => .error (wrongLength index)
    | some a => (more.fill wrongLength (index + 1)).map fun row => (a, row)

/-- Reads the end of a list all of whose items have been read. -/
def readListEnd (text : List Char) : Except ReadError (List Char) :=
  match skipBlanks text with
  | [] => .error (.ended .list)
  | c :: rest =>
    if c = ']' then .ok rest
    else if c = ',' ∧ (skipBlanks rest).head? = some ']' then .error .trailingComma
    else .error .trailingText

/-- Reads the fields of a record as the items of a list, up to and with its closing bracket. -/
def readItems (wrongLength : Nat → ReadError) (room : Nat) :
    {types : List Type} → Fields types → (index : Nat) → List Char → Outcome (Row types)
  | _, .nil, _, text => (readListEnd text).map fun rest => ((), rest)
  | _, .cons field more, index, text =>
    (itemTurn (index == 0) text).bind fun
      | .close rest =>
        ((Fields.cons field more).fill wrongLength index).map fun row => (row, rest)
      | .part start =>
        ((field.codec.reader room).run start).bind fun (a, rest) =>
          (more.readItems wrongLength room (index + 1) rest).map fun (row, rest) => ((a, row), rest)

theorem readListEnd_suffix {text rest : List Char} (h : readListEnd text = .ok rest) :
    rest <:+ text := by
  unfold readListEnd at h
  split at h
  · simp at h
  · rename_i c last blanks
    have below := skipBlanks_suffix text
    rw [blanks] at below
    split at h
    · cases h; exact (List.suffix_cons c _).trans below
    · split at h <;> simp at h

theorem readItems_suffix {wrongLength : Nat → ReadError} {room : Nat} :
    {types : List Type} → {fields : Fields types} → {index : Nat} → {text rest : List Char} →
      {row : Row types} →
      fields.readItems wrongLength room index text = .ok (row, rest) → rest <:+ text
  | _, .nil, _, _, _, _, h => by
    obtain ⟨last, read, same⟩ := map_eq_ok.1 h
    obtain ⟨-, rfl⟩ := Prod.mk.inj same
    exact readListEnd_suffix read
  | _, .cons field more, _, _, _, _, h => by
    obtain ⟨turn, turned, h⟩ := bind_eq_ok.1 h
    have below := itemTurn_suffix turned
    cases turn with
    | close last =>
      obtain ⟨filled, -, same⟩ := map_eq_ok.1 h
      obtain ⟨-, rfl⟩ := Prod.mk.inj same
      exact below
    | part start =>
      obtain ⟨⟨a, next⟩, read, h⟩ := bind_eq_ok.1 h
      obtain ⟨⟨others, last⟩, readMore, same⟩ := map_eq_ok.1 h
      obtain ⟨-, rfl⟩ := Prod.mk.inj same
      exact (readItems_suffix readMore).trans (((field.codec.reader _).rest read).suffix.trans below)

end Fields

/-- The codec of a record with the given name and fields. -/
def Codec.record {α : Type} {types : List Type} (name : String) (fields : Fields types)
    (build : Row types → α) (parts : α → Row types) : Codec α where
  reader room :=
    .front
      (fun c rest =>
        if c = '{' then
          match room with
          | 0 => .error .tooDeep
          | room + 1 =>
            (fields.readMembers room true fields.blank rest).bind fun (draft, rest) =>
              (fields.complete draft).map fun row => (build row, rest)
        else if c = '[' then
          match room with
          | 0 => .error .tooDeep
          | room + 1 =>
            (fields.readItems (.wrongLength · name types.length) room 0 rest).map
              fun (row, rest) => (build row, rest)
        else .error (mismatch (.record name) c rest))
      (by
        intro c text rest a h
        split at h
        · split at h
          · simp at h
          · obtain ⟨⟨draft, last⟩, read, h⟩ := bind_eq_ok.1 h
            obtain ⟨row, -, same⟩ := map_eq_ok.1 h
            obtain ⟨-, rfl⟩ := Prod.mk.inj same
            exact Fields.readMembers_suffix read
        · split at h
          · split at h
            · simp at h
            · obtain ⟨⟨row, last⟩, read, same⟩ := map_eq_ok.1 h
              obtain ⟨-, rfl⟩ := Prod.mk.inj same
              exact Fields.readItems_suffix read
          · simp at h)
  encode a := .object (fields.members (parts a))

end WalletView.Json
