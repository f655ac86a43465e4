/-
# Json.Codec — types that are read from JSON and written to it

A codec is a reader beside a writer of one type.  The reader is told how many brackets may still
be opened inside one another.  This module has the codecs of single values, lists and maps;
records are in `Json.Record`.
-/
import WalletView.Json.Value
import WalletView.Json.Printer
import WalletView.Map.Id

set_option autoImplicit false

namespace WalletView.Json

/-- A way to read a type from JSON and to write it as JSON. -/
structure Codec (α : Type) where
  reader : (room : Nat) → Reader α
  encode : α → Json

/-- How many brackets a text may open inside one another. -/
def greatestDepth : Nat := 127

namespace Codec

variable {α β : Type}

/-- Reads the whole of a text. -/
def parse (c : Codec α) (text : String) : Except ReadError α :=
  (c.reader greatestDepth).readAll text.toList

/-- A type written as another. -/
def via (c : Codec α) (ofRaw : α → β) (toRaw : β → α) : Codec β where
  reader room := (c.reader room).map ofRaw
  encode b := c.encode (toRaw b)

def string : Codec String where
  reader _ := .string
  encode := .string

def boolean : Codec Bool where
  reader _ := .boolean
  encode := .bool

def word : Codec UInt64 where
  reader _ := .word
  encode w := .natural w.toNat

/-- Values of any shape. -/
def any : Codec Json where
  reader := freeForm
  encode := id

/-- What may be absent is `null` then. -/
def option (c : Codec α) : Codec (Option α) where
  reader room := .option (c.reader room)
  encode := .ofOption c.encode

def list (c : Codec α) : Codec (List α) where
  reader := .list c.reader
  encode items := .array (items.map c.encode)

/-- The members of an object for the entries of a map. -/
def encodeEntries (c : Codec α) (entries : List (String × α)) : Json :=
  .object (entries.map fun entry => (entry.1, c.encode entry.2))

/-- Records by id, in the order of the text. -/
def idMap (c : Codec α) : Codec (IdMap α) where
  reader room := (Reader.members .idMap c.reader room).map .ofList
  encode m := c.encodeEntries m.entries

/-- Values by name. -/
def sortedMap (c : Codec α) : Codec (SortedMap α) where
  reader room := (Reader.members .map c.reader room).map .ofList
  encode m := c.encodeEntries m.entries

end Codec

/-! ## Names of cases -/

/-- Reads the value `null` behind a case's name. -/
def readUnit (text : List Char) : Except ReadError (List Char) :=
  match skipBlanks text with
  | [] => .error (.ended .value)
  | c :: rest =>
    if c = 'n' then readWord ['u', 'l', 'l'] rest else .error (mismatch .unit c rest)

/-- Reads a name written as the key of an object with one member, from behind the brace. -/
def readNameInBraces (text : List Char) : Outcome String :=
  match skipBlanks text with
  | [] => .error (.ended .object)
  | c :: rest =>
    if c = '"' then
      (readString rest).bind fun (name, rest) =>
      (readColon rest).bind fun rest =>
      (readUnit rest).bind fun rest =>
        match skipBlanks rest with
        | [] => .error (.ended .object)
        | d :: rest => if d = '}' then .ok (name, rest) else .error .expectedValue
    else .error (if c = '}' then .expectedValue else .keyNotString)

theorem readUnit_rest {text rest : List Char} (h : readUnit text = .ok rest) : Rest text rest := by
  unfold readUnit at h
  split at h
  · simp at h
  · rename_i blanks
    split at h
    · exact .of_suffix (skipBlanks_suffix text) (blanks ▸ .consumes (readWord_suffix h))
    · simp at h

theorem readNameInBraces_suffix {text rest : List Char} {name : String}
    (h : readNameInBraces text = .ok (name, rest)) : rest <:+ text := by
  unfold readNameInBraces at h
  split at h
  · simp at h
  · rename_i c front blanks
    have below := skipBlanks_suffix text
    rw [blanks] at below
    split at h
    · obtain ⟨⟨key, afterKey⟩, readKey, h⟩ := bind_eq_ok.1 h
      obtain ⟨afterColon, colon, h⟩ := bind_eq_ok.1 h
      obtain ⟨afterUnit, unit, h⟩ := bind_eq_ok.1 h
      have used := (readString_rest readKey).trans ((readColon_rest colon).trans (readUnit_rest unit))
      split at h
      · simp at h
      · rename_i d last blanks'
        have inner := skipBlanks_suffix afterUnit
        rw [blanks'] at inner
        split at h
        · cases h
          exact ((List.suffix_cons _ _).trans inner).trans
            (used.suffix.trans ((List.suffix_cons _ _).trans below))
        · simp at h
    · simp at h

/-- Reads the name of a case: a string, or the only key of an object whose value is `null`. -/
def Reader.caseName (room : Nat) : Reader String :=
  front
    (fun c rest =>
      if c = '"' then readString rest
      else if c = '{' then
        match room with
        | 0 => .error .tooDeep
        | _ + 1 => readNameInBraces rest
      else .error .expectedValue)
    (by
      intro c text rest a h
      split at h
      · exact (readString_rest h).suffix
      · split at h
        · split at h
          · simp at h
          · exact readNameInBraces_suffix h
        · simp at h)

/-- A type of cases, each with a name. -/
def Codec.cases {α : Type} (ofName : String → α) (name : α → String) : Codec α where
  reader room := (Reader.caseName room).map ofName
  encode a := .string (name a)

end WalletView.Json
