/-
# Proofs.Json.Codec — what is read is read back from how it is written

A codec restores a value if its reader reads the value back from how its writer writes it.  A codec
is *lawful* if it restores all that it reads, as long as what it writes is whole: within the same
room, so that whatever was nested as deep as is allowed may be written and read again.

What stands for a missing part is written out, and may need room that the text it was missing from
did not.  So a codec is lawful from a `reserve` of room on.
-/
import WalletView.Json.Codec
import WalletView.Proofs.Json.Reader
import WalletView.Proofs.Map.Id
import WalletView.Proofs.Map.Sorted

set_option autoImplicit false

namespace WalletView.Json

namespace Codec

variable {α β : Type}

/-! ## What is written is whole -/

section Whole

variable {c : Codec α}

@[simp] theorem string_encode_isWhole (s : String) : (string.encode s).isWhole = true :=
  rfl

@[simp] theorem boolean_encode_isWhole (b : Bool) : (boolean.encode b).isWhole = true :=
  rfl

@[simp] theorem word_encode_isWhole (w : UInt64) : (word.encode w).isWhole = true :=
  rfl

@[simp] theorem cases_encode_isWhole (ofName : String → α) (name : α → String) (a : α) :
    ((cases ofName name).encode a).isWhole = true :=
  rfl

@[simp] theorem via_encode (ofRaw : α → β) (toRaw : β → α) (b : β) :
    (c.via ofRaw toRaw).encode b = c.encode (toRaw b) :=
  rfl

@[simp] theorem any_encode (j : Json) : any.encode j = j :=
  rfl

@[simp] theorem option_encode_isWhole {value : Option α} :
    (c.option.encode value).isWhole = true ↔ ∀ a ∈ value, (c.encode a).isWhole = true :=
  ofOption_isWhole

@[simp] theorem list_encode_isWhole {items : List α} :
    (c.list.encode items).isWhole = true ↔ ∀ a ∈ items, (c.encode a).isWhole = true :=
  isWhole_array.trans List.forall_mem_map

@[simp] theorem idMap_encode_isWhole {m : IdMap α} :
    (c.idMap.encode m).isWhole = true ↔
      ∀ entry ∈ m.entries, (c.encode entry.2).isWhole = true :=
  isWhole_object.trans List.forall_mem_map

@[simp] theorem sortedMap_encode_isWhole {m : SortedMap α} :
    (c.sortedMap.encode m).isWhole = true ↔
      ∀ entry ∈ m.entries, (c.encode entry.2).isWhole = true :=
  isWhole_object.trans List.forall_mem_map

end Whole

/-! ## What is read is restored -/

/-- The codec reads the value back from how it writes it. -/
def Restores (c : Codec α) (room : Nat) (a : α) : Prop :=
  (c.reader room).Restores (c.encode a) a

/-- From the reserve on, the codec restores what it reads, and only what starts as `null` does is
written as `null`. -/
structure Lawful (c : Codec α) (reserve : Nat) : Prop where
  restores : ∀ room a, reserve ≤ room → (c.reader room).Reads a → (c.encode a).isWhole = true →
    c.Restores room a
  null : ∀ room text a rest, (c.reader room).run text = .ok (a, rest) → c.encode a = .null →
    (skipBlanks text).head? = some 'n'

/-! ## Single values -/

theorem string_restores (room : Nat) (s : String) : string.Restores room s :=
  Reader.string_restores s

theorem boolean_restores (room : Nat) (b : Bool) : boolean.Restores room b :=
  Reader.boolean_restores b

theorem word_restores (room : Nat) (w : UInt64) : word.Restores room w :=
  Reader.word_restores w

theorem string_lawful (reserve : Nat) : string.Lawful reserve :=
  ⟨fun room s _ _ _ => string_restores room s, nofun⟩

theorem boolean_lawful (reserve : Nat) : boolean.Lawful reserve :=
  ⟨fun room b _ _ _ => boolean_restores room b, nofun⟩

theorem word_lawful (reserve : Nat) : word.Lawful reserve :=
  ⟨fun room w _ _ _ => word_restores room w, nofun⟩

/-- What is absent is restored, and so is what is there, since it is not written as absent. -/
theorem option_lawful {c : Codec α} {reserve : Nat} (lawful : c.Lawful reserve) :
    c.option.Lawful reserve := by
  constructor
  · rintro room value enough ⟨text, rest, run⟩ whole
    rcases Reader.cases_of_option_run run with ⟨rfl, -⟩ | ⟨a, rfl, read, notN⟩
    · exact Reader.option_restores_none _
    · have restores := lawful.restores room a enough ⟨text, rest, read⟩ whole
      exact Reader.option_restores_some restores fun isNull =>
        notN (lawful.null room text a rest read isNull)
  · intro room text value rest run isNull
    rcases Reader.cases_of_option_run run with ⟨-, isN⟩ | ⟨a, rfl, read, -⟩
    · exact isN
    · exact lawful.null room text a rest read isNull

section Via

variable {c : Codec α} {ofRaw : α → β} {toRaw : β → α}

theorem via_restores {room : Nat} {b : β} (restores : c.Restores room (toRaw b))
    (back : ofRaw (toRaw b) = b) : (c.via ofRaw toRaw).Restores room b := by
  have restores := restores.map ofRaw
  rw [back] at restores
  exact restores

theorem via_lawful {reserve : Nat} (lawful : c.Lawful reserve)
    (raw : ∀ a, toRaw (ofRaw a) = a) : (c.via ofRaw toRaw).Lawful reserve := by
  constructor
  · rintro room b enough ⟨text, rest, run⟩ whole
    obtain ⟨a, read, rfl⟩ := Reader.map_run_eq_ok.1 run
    refine via_restores (lawful.restores room _ enough ⟨text, rest, ?_⟩ whole) ?_
    · rw [raw, read]
    · rw [raw]
  · intro room text b rest run isNull
    obtain ⟨a, read, rfl⟩ := Reader.map_run_eq_ok.1 run
    exact lawful.null room text a rest read ((congrArg c.encode (raw a)).symm.trans isNull)

end Via

theorem caseName_restores (room : Nat) (s : String) :
    (Reader.caseName room).Restores (.string s) s where
  whole := rfl
  run text _ := by
    rw [print, quote_append, Reader.caseName, Reader.front_run rfl]
    exact readString_escape s text

/-- Cases are restored by name, if a name that is read stands for the case that has it. -/
theorem cases_lawful {ofName : String → α} {name : α → String} (reserve : Nat)
    (named : ∀ s, ofName (name (ofName s)) = ofName s) : (cases ofName name).Lawful reserve := by
  constructor
  · rintro room a - ⟨text, rest, run⟩ -
    obtain ⟨s, -, rfl⟩ := Reader.map_run_eq_ok.1 run
    have restores := (caseName_restores room (name (ofName s))).map ofName
    rw [named] at restores
    exact restores
  · nofun

/-! ## Lists and maps -/

section Maps

variable {c : Codec α} {room reserve : Nat}

theorem list_restores {items : List α} (restores : ∀ a ∈ items, c.Restores room a) :
    c.list.Restores (room + 1) items :=
  Reader.list_restores restores

theorem list_lawful (lawful : c.Lawful reserve) : c.list.Lawful (reserve + 1) := by
  constructor
  · rintro room items enough ⟨text, rest, run⟩ whole
    obtain ⟨left, rfl, reads⟩ := Reader.exists_of_list_run run
    have whole := list_encode_isWhole.1 whole
    exact list_restores fun a member =>
      lawful.restores left a (Nat.le_of_succ_le_succ enough) (reads a member) (whole a member)
  · nofun

section Entries

variable {μ : Type} {expected : Expected} {ofList : List (String × α) → μ}
  {entries : μ → List (String × α)}

/-- A map of any kind that is made of its entries is restored if all its values are. -/
theorem entries_restores {m : μ} (made : ofList (entries m) = m)
    (restores : ∀ entry ∈ entries m, c.Restores room entry.2) :
    ((Reader.members expected c.reader (room + 1)).map ofList).Restores
      (c.encodeEntries (entries m)) m := by
  have restores := (Reader.members_restores expected restores).map ofList
  rw [made] at restores
  exact restores

/-- A map of any kind has only entries that were read. -/
theorem entries_lawful (lawful : c.Lawful reserve) (made : ∀ m, ofList (entries m) = m)
    (kept : ∀ {list entry}, entry ∈ entries (ofList list) → entry ∈ list) :
    Lawful ⟨fun room => (Reader.members expected c.reader room).map ofList,
      fun m => c.encodeEntries (entries m)⟩ (reserve + 1) := by
  constructor
  · rintro room m enough ⟨text, rest, run⟩ whole
    obtain ⟨list, read, rfl⟩ := Reader.map_run_eq_ok.1 run
    obtain ⟨left, rfl, reads⟩ := Reader.exists_of_members_run read
    have whole := List.forall_mem_map.1 (isWhole_object.1 whole)
    exact entries_restores (made _) fun entry member =>
      lawful.restores left entry.2 (Nat.le_of_succ_le_succ enough) (reads entry (kept member))
        (whole entry member)
  · nofun

end Entries

theorem idMap_restores {m : IdMap α} (restores : ∀ entry ∈ m.entries, c.Restores room entry.2) :
    c.idMap.Restores (room + 1) m :=
  entries_restores (IdMap.ofList_entries m) restores

theorem sortedMap_restores {m : SortedMap α}
    (restores : ∀ entry ∈ m.entries, c.Restores room entry.2) :
    c.sortedMap.Restores (room + 1) m :=
  entries_restores (SortedMap.ofList_entries m) restores

theorem idMap_lawful (lawful : c.Lawful reserve) : c.idMap.Lawful (reserve + 1) :=
  entries_lawful lawful IdMap.ofList_entries IdMap.mem_of_mem_ofList

theorem sortedMap_lawful (lawful : c.Lawful reserve) : c.sortedMap.Lawful (reserve + 1) :=
  entries_lawful lawful SortedMap.ofList_entries SortedMap.mem_of_mem_ofList

end Maps

end Codec

/-! ## Values of any shape -/

/-- A value without parts, and with no number that is not read. -/
def IsScalar : Json → Prop
  | .number (.integer n) => FitsWord n
  | .number (.double _) | .array _ | .object _ => False
  | _ => True

section FreeForm

variable {list object : List Char → Outcome Json}
  {suffix : ∀ {c : Char} {text rest : List Char} {a : Json},
    readFreeForm list object c text = .ok (a, rest) → rest <:+ text}

/-- What is read by its first character: a scalar, a double, or what a bracket opens. -/
theorem cases_of_readFreeForm {c : Char} {text rest : List Char} {j : Json}
    (read : readFreeForm list object c text = .ok (j, rest)) :
    (IsScalar j ∧ (j = .null → c = 'n')) ∨ (∃ x, j = .number (.double x)) ∨
      list text = .ok (j, rest) ∨ object text = .ok (j, rest) := by
  unfold readFreeForm at read
  split at read
  · rename_i isN
    obtain ⟨last, -, same⟩ := map_eq_ok.1 read
    obtain ⟨rfl, -⟩ := Prod.mk.inj same
    exact .inl ⟨trivial, fun _ => isN⟩
  split at read
  · obtain ⟨last, -, same⟩ := map_eq_ok.1 read
    obtain ⟨rfl, -⟩ := Prod.mk.inj same
    exact .inl ⟨trivial, nofun⟩
  split at read
  · obtain ⟨last, -, same⟩ := map_eq_ok.1 read
    obtain ⟨rfl, -⟩ := Prod.mk.inj same
    exact .inl ⟨trivial, nofun⟩
  split at read
  · obtain ⟨⟨s, last⟩, -, same⟩ := map_eq_ok.1 read
    obtain ⟨rfl, -⟩ := Prod.mk.inj same
    exact .inl ⟨trivial, nofun⟩
  split at read
  · exact .inr (.inr (.inl read))
  split at read
  · exact .inr (.inr (.inr read))
  split at read
  · obtain ⟨⟨n, last⟩, isNumber, same⟩ := map_eq_ok.1 read
    obtain ⟨rfl, -⟩ := Prod.mk.inj same
    cases n with
    | integer n => exact .inl ⟨fitsWord_of_readNumber isNumber, nofun⟩
    | double x => exact .inr (.inl ⟨x, rfl⟩)
  · cases read

theorem readFreeForm_of_startsNumber {c : Char} (starts : startsNumber c = true)
    (text : List Char) :
    readFreeForm list object c text =
      (readNumber (c :: text)).map fun (n, rest) => (.number n, rest) := by
  have other {d : Char} (notNumber : startsNumber d = false) : c ≠ d :=
    ne_of_startsNumber starts notNumber
  simp only [readFreeForm, starts, if_true, if_neg (other (d := 'n') rfl),
    if_neg (other (d := 't') rfl), if_neg (other (d := 'f') rfl), if_neg (other (d := '"') rfl),
    if_neg (other (d := '[') rfl), if_neg (other (d := '{') rfl)]

/-- A scalar is restored, whatever is made of brackets. -/
theorem scalar_restores {j : Json} (isScalar : IsScalar j) :
    (Reader.front (readFreeForm list object) @suffix).Restores j j := by
  cases j with
  | null =>
    refine ⟨rfl, fun text _ => ?_⟩
    rw [print, nullText, List.cons_append, Reader.front_run rfl]
    exact congrArg (Except.map _) (readWord_append ['u', 'l', 'l'] text)
  | bool b =>
    refine ⟨rfl, fun text _ => ?_⟩
    cases b with
    | true =>
      rw [print, boolText, if_pos rfl, List.cons_append, Reader.front_run rfl]
      exact congrArg (Except.map _) (readWord_append ['r', 'u', 'e'] text)
    | false =>
      rw [print, boolText, if_neg Bool.false_ne_true, List.cons_append, Reader.front_run rfl]
      exact congrArg (Except.map _) (readWord_append ['a', 'l', 's', 'e'] text)
  | string s =>
    refine ⟨rfl, fun text _ => ?_⟩
    rw [print, quote_append, Reader.front_run rfl]
    exact congrArg (Except.map _) (readString_escape s text)
  | number n =>
    cases n with
    | double x => exact isScalar.elim
    | integer n =>
      refine ⟨rfl, fun text delimited => ?_⟩
      have read := readNumber_integerText isScalar delimited
      obtain ⟨c, more, front, starts⟩ := integerText_eq_cons n
      rw [print, Number.text]
      rw [front, List.cons_append] at read ⊢
      rw [Reader.front_run (startsValue_of_startsNumber starts).notBlank,
        readFreeForm_of_startsNumber starts, read]
      rfl
  | array items => exact isScalar.elim
  | object members => exact isScalar.elim

end FreeForm

theorem Codec.any_restores {j : Json} (isScalar : IsScalar j) (room : Nat) :
    any.Restores room j := by
  show (freeForm room).Restores j j
  cases room <;> exact scalar_restores isScalar

theorem array_restores {room : Nat} {items : List Json}
    (restores : ∀ item ∈ items, (freeForm room).Restores item item) :
    (freeForm (room + 1)).Restores (.array items) (.array items) where
  whole := isWhole_array.2 fun item member => (restores item member).whole
  run text _ := by
    have restores : ∀ item ∈ items, (freeForm room).Restores (id item) item := restores
    have read := readItems_printItemTurn restores true text
    rw [List.map_id] at read
    rw [print, freeForm, List.cons_append, Reader.front_run rfl]
    exact congrArg (Except.map _) read

theorem object_restores {room : Nat} {m : SortedMap Json}
    (restores : ∀ entry ∈ m.entries, (freeForm room).Restores entry.2 entry.2) :
    (freeForm (room + 1)).Restores (.object m.entries) (.object m.entries) where
  whole := isWhole_object.2 fun entry member => (restores entry member).whole
  run text _ := by
    have restores : ∀ entry ∈ m.entries, (freeForm room).Restores (id entry.2) entry.2 := restores
    have read := readMembers_printMemberTurn restores true text
    rw [show (m.entries.map fun entry => (entry.1, id entry.2)) = m.entries from List.map_id _]
      at read
    rw [print, freeForm, List.cons_append, Reader.front_run rfl]
    refine (congrArg (Except.map _) read).trans ?_
    simp only [Except.map, ofMembers, SortedMap.ofList_entries]

/-- What a value of any shape can be, and what it is made of: its parts were read one bracket
further in. -/
theorem cases_of_freeForm {room : Nat} {text rest : List Char} {j : Json}
    (run : (freeForm room).run text = .ok (j, rest)) :
    (IsScalar j ∧ (j = .null → (skipBlanks text).head? = some 'n')) ∨
      (∃ x, j = .number (.double x)) ∨
      (∃ left items, room = left + 1 ∧ j = .array items ∧
        ∀ item ∈ items, (freeForm left).Reads item) ∨
      ∃ left, ∃ m : SortedMap Json, room = left + 1 ∧ j = .object m.entries ∧
        ∀ entry ∈ m.entries, (freeForm left).Reads entry.2 := by
  cases room with
  | zero =>
    obtain ⟨c, more, blanks, read⟩ := Reader.exists_of_front_run run
    rcases cases_of_readFreeForm read with ⟨isScalar, isN⟩ | isDouble | tooDeep | tooDeep
    · exact .inl ⟨isScalar, fun isNull => by rw [blanks, isN isNull]; rfl⟩
    · exact .inr (.inl isDouble)
    · cases tooDeep
    · cases tooDeep
  | succ left =>
    obtain ⟨c, more, blanks, read⟩ := Reader.exists_of_front_run run
    rcases cases_of_readFreeForm read with ⟨isScalar, isN⟩ | isDouble | array | object
    · exact .inl ⟨isScalar, fun isNull => by rw [blanks, isN isNull]; rfl⟩
    · exact .inr (.inl isDouble)
    · obtain ⟨⟨items, last⟩, readItems, same⟩ := map_eq_ok.1 array
      obtain ⟨rfl, -⟩ := Prod.mk.inj same
      exact .inr (.inr (.inl ⟨left, items, rfl, rfl, reads_of_readItems readItems⟩))
    · obtain ⟨⟨members, last⟩, readMembers, same⟩ := map_eq_ok.1 object
      obtain ⟨rfl, -⟩ := Prod.mk.inj same
      have reads := reads_of_readMembers readMembers
      exact .inr (.inr (.inr ⟨left, .ofList members, rfl, rfl, fun entry member =>
        reads entry (SortedMap.mem_of_mem_ofList member)⟩))

/-- **A value of any shape is restored within the room it was read in**: induction on the room, of
which every bracket takes some. -/
theorem freeForm_restores {room : Nat} {j : Json} (reads : (freeForm room).Reads j)
    (whole : j.isWhole = true) : (freeForm room).Restores j j := by
  induction room using Nat.strongRecOn generalizing j with
  | _ room ih =>
    obtain ⟨text, rest, run⟩ := reads
    rcases cases_of_freeForm run with
      ⟨isScalar, -⟩ | ⟨x, rfl⟩ | ⟨left, items, rfl, rfl, reads⟩ | ⟨left, m, rfl, rfl, reads⟩
    · exact Codec.any_restores isScalar room
    · cases whole
    · exact array_restores fun item member =>
        ih left (Nat.lt_succ_self _) (reads item member) (isWhole_array.1 whole item member)
    · exact object_restores fun entry member =>
        ih left (Nat.lt_succ_self _) (reads entry member) (isWhole_object.1 whole entry member)

/-- Only what starts as `null` does is read as `null`. -/
theorem head?_of_freeForm_null {room : Nat} {text rest : List Char}
    (run : (freeForm room).run text = .ok (.null, rest)) :
    (skipBlanks text).head? = some 'n' := by
  rcases cases_of_freeForm run with
    ⟨-, isN⟩ | ⟨x, isNull⟩ | ⟨left, items, -, isNull, -⟩ | ⟨left, m, -, isNull, -⟩
  · exact isN rfl
  · cases isNull
  · cases isNull
  · cases isNull

theorem Codec.any_lawful (reserve : Nat) : any.Lawful reserve where
  restores _ _ _ reads whole := freeForm_restores reads whole
  null _ _ _ _ run isNull := by
    obtain rfl := isNull
    exact head?_of_freeForm_null run

/-! ## Whole texts -/

namespace Codec

variable {α : Type} {c : Codec α}

theorem reads_of_parse {text : String} {a : α} (read : c.parse text = .ok a) :
    (c.reader greatestDepth).Reads a := by
  obtain ⟨⟨a, rest⟩, run, isEnd⟩ := bind_eq_ok.1 read
  dsimp only at isEnd
  split at isEnd
  · cases isEnd
    exact ⟨_, rest, run⟩
  · cases isEnd

theorem parse_compact {a : α} (restores : c.Restores greatestDepth a) :
    c.parse (c.encode a).compact = .ok a := by
  have run := restores.run [] delimited_nil
  rw [List.append_nil] at run
  rw [parse, compact, String.toList_ofList]
  exact bind_eq_ok.2 ⟨_, run, rfl⟩

/-- **What a lawful codec read from a text, it reads again from the text it writes.** -/
theorem Lawful.parse_compact {reserve : Nat} (lawful : c.Lawful reserve)
    (enough : reserve ≤ greatestDepth) {text : String} {a : α} (read : c.parse text = .ok a)
    (whole : (c.encode a).isWhole = true) : c.parse (c.encode a).compact = .ok a :=
  Codec.parse_compact (lawful.restores greatestDepth a enough (reads_of_parse read) whole)

end Codec

end WalletView.Json
