/-
# Proofs.Json.Record — records are read back field by field

A record that was read, from an object or from a list, has in each field what its codec read there
or the field's default (`Fields.Filled`).  It is written as an object of its fields; a field that is
left out is at its default.  Reading that object enters one field after another in a blank draft
(`readMembers_printMemberTurn_members`), and then completes the draft by the same defaults.

So a record's codec is lawful when its fields are, each on its own, and no two have one name.
-/
import WalletView.Json.Record
import WalletView.Proofs.Json.Codec

set_option autoImplicit false

namespace WalletView.Json

/-! ## Fields -/

/-- A field whose codec is lawful, whose default is restored where it is written, and which is left
out only at its default. -/
structure Field.Lawful {α : Type} (field : Field α) (reserve : Nat) : Prop where
  codec : field.codec.Lawful reserve
  default : ∀ a ∈ field.whenMissing, ∀ room, reserve ≤ room → field.isWritten a = true →
    field.codec.Restores room a
  unwritten : ∀ a, field.isWritten a = false → field.whenMissing = some a

/-- Whether what is written of a field is whole, if the field is written. -/
def Field.Whole {α : Type} (field : Field α) (a : α) : Prop :=
  field.isWritten a = true → (field.codec.encode a).isWhole = true

namespace Field

variable {α : Type} {codec : Codec α} {reserve : Nat} (name : String)

theorem required_lawful (lawful : codec.Lawful reserve) :
    (required name codec).Lawful reserve where
  codec := lawful
  default := nofun
  unwritten := nofun

theorem withDefault_lawful (lawful : codec.Lawful reserve) {whenMissing : α}
    (restores : ∀ room, codec.Restores (room + reserve) whenMissing) :
    (withDefault name codec whenMissing).Lawful reserve where
  codec := lawful
  default := by
    rintro _ ⟨⟩ room enough -
    obtain ⟨more, rfl⟩ := Nat.exists_eq_add_of_le' enough
    exact restores more
  unwritten := nofun

theorem nullable_lawful (lawful : codec.Lawful reserve) :
    (nullable name codec).Lawful reserve where
  codec := Codec.option_lawful lawful
  default := by
    rintro _ ⟨⟩ room - -
    exact Reader.option_restores_none _
  unwritten := nofun

theorem optional_lawful (lawful : codec.Lawful reserve) :
    (optional name codec).Lawful reserve where
  codec := Codec.option_lawful lawful
  default := by rintro _ ⟨⟩ room - ⟨⟩
  unwritten
    | none, _ => rfl
    | some _, isWritten => nomatch isWritten

@[simp] theorem required_whole {a : α} :
    (required name codec).Whole a ↔ (codec.encode a).isWhole = true :=
  ⟨fun whole => whole rfl, fun whole _ => whole⟩

@[simp] theorem withDefault_whole {whenMissing a : α} :
    (withDefault name codec whenMissing).Whole a ↔ (codec.encode a).isWhole = true :=
  ⟨fun whole => whole rfl, fun whole _ => whole⟩

@[simp] theorem nullable_whole {value : Option α} :
    (nullable name codec).Whole value ↔ ∀ a ∈ value, (codec.encode a).isWhole = true :=
  Iff.trans ⟨fun whole => whole rfl, fun whole _ => whole⟩ Codec.option_encode_isWhole

@[simp] theorem optional_whole {value : Option α} :
    (optional name codec).Whole value ↔ ∀ a ∈ value, (codec.encode a).isWhole = true := by
  cases value with
  | none => exact ⟨fun _ => nofun, fun _ => nofun⟩
  | some a =>
    exact Iff.trans ⟨fun whole => whole rfl, fun whole _ => whole⟩ Codec.option_encode_isWhole

end Field

/-- A draft with one more field in front. -/
def Draft.push {α : Type} {types : List Type} (value : Option α) (others : Draft types) :
    Draft (α :: types) :=
  (value, others)

theorem Slot.map_map {δ ε ζ : Type} (slot : Slot δ) (f : δ → ε) (g : ε → ζ) :
    (slot.map f).map g = slot.map (g ∘ f) := by
  cases slot with
  | unknown => rfl
  | filled name => rfl
  | vacant reader => exact congrArg Slot.vacant (funext fun room => Reader.map_map f g _)

theorem Slot.map_id {δ : Type} (slot : Slot δ) : slot.map id = slot := by
  cases slot with
  | unknown => rfl
  | filled name => rfl
  | vacant reader => exact congrArg Slot.vacant (funext fun room => Reader.map_id _)

namespace Fields

variable {types : List Type}

def names : {types : List Type} → Fields types → List String
  | _, .nil => []
  | _, .cons field more => field.name :: more.names

/-- Every field is lawful. -/
def Lawful (reserve : Nat) : {types : List Type} → Fields types → Prop
  | _, .nil => True
  | _, .cons field more => field.Lawful reserve ∧ more.Lawful reserve

/-- Whether all that is written of the fields is whole. -/
@[simp] def Whole : {types : List Type} → Fields types → Row types → Prop
  | _, .nil, _ => True
  | _, .cons field more, (a, row) =>
    field.Whole a ∧ more.Whole row

/-- Every field that is written is restored. -/
def Restorable (room : Nat) : {types : List Type} → Fields types → Row types → Prop
  | _, .nil, _ => True
  | _, .cons field more, (a, row) =>
    (field.isWritten a = true → field.codec.Restores room a) ∧ more.Restorable room row

/-- Every field of the draft that is there was read. -/
def Read (room : Nat) : {types : List Type} → Fields types → Draft types → Prop
  | _, .nil, _ => True
  | _, .cons field more, (value, others) =>
    (∀ a ∈ value, (field.codec.reader room).Reads a) ∧ more.Read room others

/-- Every field of the row was read, or is at its default. -/
def Filled (room : Nat) : {types : List Type} → Fields types → Row types → Prop
  | _, .nil, _ => True
  | _, .cons field more, (a, row) =>
    ((field.codec.reader room).Reads a ∨ field.whenMissing = some a) ∧ more.Filled room row

/-- The draft of those fields that are written. -/
def written : {types : List Type} → Fields types → Row types → Draft types
  | _, .nil, _ => ()
  | _, .cons field more, (a, row) =>
    (if field.isWritten a then some a else none, more.written row)

theorem whole_iff {fields : Fields types} {row : Row types} :
    fields.Whole row ↔ ∀ member ∈ fields.members row, member.2.isWhole = true := by
  induction fields with
  | nil => simp [Whole, members]
  | cons field more ih =>
    obtain ⟨a, row⟩ := row
    rw [Whole, Field.Whole, ih, Fields.members]
    cases field.isWritten a <;> simp

/-! ## What is read -/

section Reading

variable {room reserve : Nat} {fields : Fields types}

theorem read_blank (room : Nat) (fields : Fields types) : fields.Read room fields.blank := by
  induction fields with
  | nil => trivial
  | cons field more ih => exact ⟨nofun, ih⟩

/-- A field that is entered in a draft was read. -/
theorem read_of_slot {key : String} {draft after : Draft types}
    {reader : Nat → Reader (Draft types)} (slot : fields.slot key draft = .vacant reader)
    (read : fields.Read room draft) (reads : (reader room).Reads after) :
    fields.Read room after := by
  obtain ⟨text, rest, run⟩ := reads
  induction fields with
  | nil => cases slot
  | cons field more ih =>
    obtain ⟨value, others⟩ := draft
    obtain ⟨readValue, readOthers⟩ := read
    simp only [Fields.slot] at slot
    split at slot
    · split at slot
      · cases slot
      · cases slot
        obtain ⟨a, isRead, rfl⟩ := Reader.map_run_eq_ok.1 run
        refine ⟨?_, readOthers⟩
        rintro _ ⟨⟩
        exact ⟨text, rest, isRead⟩
    · cases inner : more.slot key others with
      | unknown => rw [inner] at slot; cases slot
      | filled name => rw [inner] at slot; cases slot
      | vacant innerReader =>
        rw [inner] at slot
        cases slot
        obtain ⟨entered, isRead, rfl⟩ := Reader.map_run_eq_ok.1 run
        exact ⟨readValue, ih inner readOthers isRead⟩

theorem read_of_readMember {draft after : Draft types} {text rest : List Char}
    (read : fields.Read room draft)
    (isRead : fields.readMember room draft text = .ok (after, rest)) : fields.Read room after := by
  obtain ⟨⟨key, afterKey⟩, -, isRead⟩ := bind_eq_ok.1 isRead
  dsimp only at isRead
  split at isRead
  · cases isRead
  · obtain ⟨afterColon, -, isRead⟩ := bind_eq_ok.1 isRead
    obtain ⟨last, -, same⟩ := map_eq_ok.1 isRead
    obtain ⟨rfl, -⟩ := Prod.mk.inj same
    exact read
  · rename_i slot
    obtain ⟨afterColon, -, run⟩ := bind_eq_ok.1 isRead
    exact read_of_slot slot read ⟨_, _, run⟩

/-- Every field that is there when an object has been read was read. -/
theorem read_of_readMembers {first : Bool} {draft after : Draft types} {text rest : List Char}
    (read : fields.Read room draft)
    (isRead : fields.readMembers room first draft text = .ok (after, rest)) :
    fields.Read room after := by
  fun_induction readMembers fields room first draft text with
  | case1 => cases isRead
  | case2 => cases isRead; exact read
  | case3 => cases isRead
  | case4 first draft text start turn next last isMember _ ih =>
    exact ih (read_of_readMember read isMember) isRead

theorem filled_of_complete {draft : Draft types} {row : Row types}
    (read : fields.Read room draft) (complete : fields.complete draft = .ok row) :
    fields.Filled room row := by
  induction fields with
  | nil => trivial
  | cons field more ih =>
    obtain ⟨value, others⟩ := draft
    obtain ⟨readValue, readOthers⟩ := read
    rw [Fields.complete] at complete
    split at complete
    · cases complete
    · rename_i a isValue
      obtain ⟨row, completeOthers, rfl⟩ := map_eq_ok.1 complete
      refine ⟨?_, ih readOthers completeOthers⟩
      cases value with
      | none => exact .inr isValue
      | some b =>
        cases isValue
        exact .inl (readValue _ rfl)

theorem filled_of_fill {wrongLength : Nat → ReadError} {index : Nat} {row : Row types}
    (fill : fields.fill wrongLength index = .ok row) : fields.Filled room row := by
  induction fields generalizing index with
  | nil => trivial
  | cons field more ih =>
    rw [Fields.fill] at fill
    split at fill
    · cases fill
    · rename_i a isDefault
      obtain ⟨others, fillOthers, rfl⟩ := map_eq_ok.1 fill
      exact ⟨.inr isDefault, ih fillOthers⟩

/-- The fields of a record that is read from a list are filled. -/
theorem filled_of_readItems {wrongLength : Nat → ReadError} {index : Nat} {text rest : List Char}
    {row : Row types} (read : fields.readItems wrongLength room index text = .ok (row, rest)) :
    fields.Filled room row := by
  induction fields generalizing index text with
  | nil => trivial
  | cons field more ih =>
    obtain ⟨turn, -, read⟩ := bind_eq_ok.1 read
    cases turn with
    | close last =>
      obtain ⟨filled, fill, same⟩ := map_eq_ok.1 read
      obtain ⟨rfl, -⟩ := Prod.mk.inj same
      exact filled_of_fill fill
    | part start =>
      obtain ⟨⟨a, next⟩, isRead, read⟩ := bind_eq_ok.1 read
      obtain ⟨⟨others, last⟩, readMore, same⟩ := map_eq_ok.1 read
      obtain ⟨rfl, rfl⟩ := Prod.mk.inj same
      exact ⟨.inl ⟨_, _, isRead⟩, ih readMore⟩

/-- Fields that are filled are restored, if what is written of them is whole. -/
theorem restorable_of_filled {row : Row types} (enough : reserve ≤ room)
    (lawful : fields.Lawful reserve) (filled : fields.Filled room row) (whole : fields.Whole row) :
    fields.Restorable room row := by
  induction fields with
  | nil => trivial
  | cons field more ih =>
    obtain ⟨a, row⟩ := row
    obtain ⟨isLawful, lawfulMore⟩ := lawful
    obtain ⟨isFilled, filledMore⟩ := filled
    obtain ⟨isWhole, wholeMore⟩ := whole
    refine ⟨fun isWritten => ?_, ih lawfulMore filledMore wholeMore⟩
    rcases isFilled with reads | isDefault
    · exact isLawful.codec.restores room a enough reads (isWhole isWritten)
    · exact isLawful.default a isDefault room enough isWritten

end Reading

/-! ## What is read back -/

section Slots

variable {α : Type} {field : Field α} {more : Fields types} {others : Draft types}

theorem slot_push {key : String} (other : key ≠ field.name) (value : Option α) :
    (Fields.cons field more).slot key (.push value others) =
      (more.slot key others).map (.push value) := by
  show (if key = field.name then _ else _) = _
  rw [if_neg other]
  rfl

theorem slot_push_self :
    (Fields.cons field more).slot field.name (.push none others) =
      .vacant fun room => (field.codec.reader room).map fun a => .push (some a) others := by
  show (if field.name = field.name then _ else _) = _
  rw [if_pos rfl]
  rfl

end Slots

section Writing

variable {room reserve : Nat} {fields : Fields types}

theorem complete_written (lawful : fields.Lawful reserve) (row : Row types) :
    fields.complete (fields.written row) = .ok row := by
  induction fields with
  | nil => rfl
  | cons field more ih =>
    obtain ⟨a, row⟩ := row
    obtain ⟨isLawful, lawfulMore⟩ := lawful
    rw [Fields.written, Fields.complete, ih lawfulMore]
    cases written : field.isWritten a with
    | false => rw [if_neg Bool.false_ne_true, isLawful.unwritten a written]; rfl
    | true => rfl

/-- A member whose key is a field still to be read is read by what the key means. -/
theorem readMember_of_slot {draft after : Draft types} {key : String}
    {reader : Nat → Reader (Draft types)} {value rest : List Char}
    (slot : fields.slot key draft = .vacant reader)
    (run : (reader room).run value = .ok (after, rest)) :
    fields.readMember room draft (key.toList.flatMap escape ++ '"' :: ':' :: value) =
      .ok (after, rest) := by
  rw [readMember, readString_escape]
  simp only [Except.bind, slot, readColon_colon, run]

/-- **The fields that are written are read back**, one after another, each entered in the draft
that the others before it left.  `embed` puts a draft of the fields to come into one of all fields,
with what was read of the others. -/
theorem readMembers_printMemberTurn_members {outerTypes : List Type} {outer : Fields outerTypes}
    {embed : Draft types → Draft outerTypes}
    (slots : ∀ key ∈ fields.names, ∀ draft, outer.slot key (embed draft) =
      (fields.slot key draft).map embed)
    (distinct : fields.names.Nodup) {row : Row types} (restorable : fields.Restorable room row)
    (first : Bool) (text : List Char) :
    outer.readMembers room first (embed fields.blank)
      (printMemberTurn first (fields.members row) ++ text) =
        .ok (embed (fields.written row), text) := by
  induction fields generalizing first with
  | nil => rw [readMembers_eq]; cases first <;> rfl
  | cons field more ih =>
    obtain ⟨a, row⟩ := row
    obtain ⟨fresh, distinctMore⟩ := List.nodup_cons.1 distinct
    obtain ⟨restores, restorableMore⟩ := restorable
    -- The keys still to come mean behind this field what they mean of the fields behind it, since
    -- none of them is its name.
    have slotsMore (value : Option _) : ∀ key ∈ more.names, ∀ draft,
        outer.slot key ((embed ∘ Draft.push value) draft) =
          (more.slot key draft).map (embed ∘ Draft.push value) := by
      intro key member draft
      have other : key ≠ field.name := fun same => fresh (same ▸ member)
      rw [Function.comp, slots key (List.mem_cons_of_mem _ member), slot_push other, Slot.map_map]
    cases isWritten : field.isWritten a with
    | false =>
      have rest := ih (slotsMore none) distinctMore restorableMore first
      rw [Fields.members, Fields.written, isWritten]
      exact rest
    | true =>
      have rest := ih (slotsMore (some a)) distinctMore restorableMore false
      have value := (restores isWritten).run _ (delimited_printMoreMembers (more.members row) text)
      have slot := slots field.name List.mem_cons_self (Draft.push none more.blank)
      rw [slot_push_self] at slot
      rw [Fields.members, Fields.written, isWritten, if_pos rfl, if_pos rfl,
        printMemberTurn_cons, readMembers_eq, keyTurn_separator]
      -- Read, the field is entered before the blank fields to come: the draft that `rest` starts from.
      have entered : (((field.codec.reader room).map fun a => Draft.push (some a) more.blank).map
          embed).run _ = .ok (embed (Draft.push (some a) more.blank), _) :=
        Reader.map_run_eq_ok.2 ⟨_, Reader.map_run_eq_ok.2 ⟨a, value, rfl⟩, rfl⟩
      have isRead := readMember_of_slot slot entered
      exact bind_eq_ok.2 ⟨_, rfl, bind_eq_ok.2 ⟨_, isRead, rest⟩⟩

theorem whole_of_restorable {row : Row types} (restorable : fields.Restorable room row) :
    fields.Whole row := by
  induction fields with
  | nil => trivial
  | cons field more ih =>
    obtain ⟨a, row⟩ := row
    obtain ⟨restores, restorableMore⟩ := restorable
    exact ⟨fun isWritten => (restores isWritten).whole, ih restorableMore⟩

end Writing

end Fields

/-! ## Records -/

namespace Codec

variable {α : Type} {types : List Type} {name : String} {fields : Fields types}
  {build : Row types → α} {parts : α → Row types} {room reserve : Nat}

@[simp] theorem record_encode_isWhole {a : α} :
    ((record name fields build parts).encode a).isWhole = true ↔ fields.Whole (parts a) :=
  isWhole_object.trans Fields.whole_iff.symm

/-- A record is restored if the fields of it that are written are restored and make it up. -/
theorem record_restores {a : α} (distinct : fields.names.Nodup)
    (made : (fields.complete (fields.written (parts a))).map build = .ok a)
    (restorable : fields.Restorable room (parts a)) :
    (record name fields build parts).Restores (room + 1) a where
  whole := record_encode_isWhole.2 (Fields.whole_of_restorable restorable)
  run text _ := by
    have slots (key : String) (_ : key ∈ fields.names) (draft : Draft types) :
        fields.slot key (id draft) = (fields.slot key draft).map id := by
      rw [Slot.map_id, id]
    have read := Fields.readMembers_printMemberTurn_members slots distinct restorable true text
    obtain ⟨row, complete, isBuilt⟩ := map_eq_ok.1 made
    rw [record, print, List.cons_append, Reader.front_run rfl]
    refine bind_eq_ok.2 ⟨_, read, map_eq_ok.2 ⟨row, complete, ?_⟩⟩
    rw [isBuilt]

/-- A record that was read has its fields filled. -/
theorem filled_of_record_reads {a : α}
    (reads : ((record name fields build parts).reader room).Reads a) :
    ∃ left row, room = left + 1 ∧ fields.Filled left row ∧ a = build row := by
  obtain ⟨text, rest, run⟩ := reads
  dsimp only [record] at run
  obtain ⟨c, more, -, read⟩ := Reader.exists_of_front_run run
  split at read
  · cases room with
    | zero => cases read
    | succ left =>
      obtain ⟨⟨draft, last⟩, isRead, read⟩ := bind_eq_ok.1 read
      obtain ⟨row, complete, same⟩ := map_eq_ok.1 read
      obtain ⟨rfl, -⟩ := Prod.mk.inj same
      have read := Fields.read_of_readMembers (Fields.read_blank left fields) isRead
      exact ⟨left, row, rfl, Fields.filled_of_complete read complete, rfl⟩
  split at read
  · cases room with
    | zero => cases read
    | succ left =>
      obtain ⟨⟨row, last⟩, isRead, same⟩ := map_eq_ok.1 read
      obtain ⟨rfl, -⟩ := Prod.mk.inj same
      exact ⟨left, row, rfl, Fields.filled_of_readItems isRead, rfl⟩
  · cases read

/-- **A record's codec is lawful if its fields are**, no two fields have one name, and the record
keeps each of them. -/
theorem record_lawful (lawful : fields.Lawful reserve) (distinct : fields.names.Nodup)
    (kept : ∀ row, parts (build row) = row) :
    (record name fields build parts).Lawful (reserve + 1) := by
  constructor
  · intro room a enough reads whole
    obtain ⟨left, row, rfl, filled, rfl⟩ := filled_of_record_reads reads
    have whole := record_encode_isWhole.1 whole
    rw [← kept row] at filled
    refine record_restores distinct ?_ ?_
    · rw [Fields.complete_written lawful, kept]
      rfl
    · exact Fields.restorable_of_filled (Nat.le_of_succ_le_succ enough) lawful filled whole
  · nofun

end Codec

end WalletView.Json
