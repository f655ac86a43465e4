/-
# Proofs.Json.ObjectRecord — a record is what its members say, whatever their order

Read as a record, an object gives each field what the value of the one member denotes that has the
field's name, or the field's default if there is none (`Fields.Denotes`, `Codec.record_readAll_iff`).
So neither the order of the members matters, nor those whose names are no fields.

Members are entered in a draft one after another (`Fields.EntersAll`), where a member with a field's
name finds the field empty or is refused.  All together they change the draft as each field is
changed by the members of its name alone (`Fields.Gives`), and in that the order is gone.
-/
import WalletView.Proofs.Json.Object

set_option autoImplicit false

namespace WalletView.Json

/-- The texts of the values of those members that have this name. -/
def valuesOf (name : String) (members : List MemberText) : List (List Char) :=
  members.filterMap fun m => if m.name = name then some m.value else none

theorem valuesOf_cons_self (m : MemberText) (members : List MemberText) :
    valuesOf m.name (m :: members) = m.value :: valuesOf m.name members := by
  simp [valuesOf]

theorem valuesOf_cons_of_ne {m : MemberText} {name : String} (other : m.name ≠ name)
    (members : List MemberText) : valuesOf name (m :: members) = valuesOf name members := by
  simp [valuesOf, other]

/-- What the members of an object say about a field: its default if none has its name, and what the
value of the only member denotes that has. -/
def Field.Denotes {α : Type} (field : Field α) (room : Nat) (members : List MemberText) (a : α) :
    Prop :=
  (valuesOf field.name members = [] ∧ field.whenMissing = some a) ∨
    ∃ value, valuesOf field.name members = [value] ∧
      (field.codec.reader room).readAll value = .ok a

/-- What the text of a value denotes in an object that stands by itself, or the default if there is
no text. -/
def Codec.Denotes {α : Type} (c : Codec α) (whenMissing : α) (value : Option (List Char)) (a : α) :
    Prop :=
  match value with
  | none => a = whenMissing
  | some text => (c.reader (greatestDepth - 1)).readAll text = .ok a

/-- What an object says about a field with a default: no more than one member has its name. -/
theorem Field.denotes_withDefault_iff {α : Type} {name : String} {c : Codec α} {whenMissing a : α}
    {members : List MemberText} :
    (withDefault name c whenMissing).Denotes (greatestDepth - 1) members a ↔
      ∃ value : Option (List Char),
        valuesOf name members = value.toList ∧ c.Denotes whenMissing value a := by
  constructor
  · rintro (⟨noValue, isDefault⟩ | ⟨text, isText, isRead⟩)
    · exact ⟨none, noValue, (Option.some.inj isDefault).symm⟩
    · exact ⟨some text, isText, isRead⟩
  · rintro ⟨value, values, denotes⟩
    cases value with
    | none => exact .inl ⟨values, congrArg some denotes.symm⟩
    | some text => exact .inr ⟨text, values, denotes⟩

/-- How the members of an object change what has been read of a field: not at all, or from nothing
to what the value of the only one denotes that has its name. -/
def Field.Gives {α : Type} (field : Field α) (room : Nat) (members : List MemberText)
    (old new : Option α) : Prop :=
  (valuesOf field.name members = [] ∧ new = old) ∨
    ∃ value a, valuesOf field.name members = [value] ∧ old = none ∧ new = some a ∧
      (field.codec.reader room).readAll value = .ok a

namespace Fields

variable {types : List Type} {fields : Fields types} {room : Nat}

/-- What the members of an object say about every field. -/
def Denotes (room : Nat) (members : List MemberText) :
    {types : List Type} → Fields types → Row types → Prop
  | _, .nil, _ => True
  | _, .cons field more, (a, row) =>
    field.Denotes room members a ∧ more.Denotes room members row

/-- How the members of an object change a draft. -/
def Gives (room : Nat) (members : List MemberText) :
    {types : List Type} → Fields types → (old new : Draft types) → Prop
  | _, .nil, _, _ => True
  | _, .cons field more, (old, others), (new, others') =>
    field.Gives room members old new ∧ more.Gives room members others others'

/-- How one member changes a draft. -/
def Enters (fields : Fields types) (room : Nat) (m : MemberText) (old new : Draft types) : Prop :=
  match fields.slot m.name old with
  | .unknown => new = old
  | .filled _ => False
  | .vacant reader => (reader room).readAll m.value = .ok new

/-- How members change a draft one after another. -/
def EntersAll (fields : Fields types) (room : Nat) :
    List MemberText → (old new : Draft types) → Prop
  | [], old, new => new = old
  | m :: more, old, new => ∃ next, fields.Enters room m old next ∧ fields.EntersAll room more next new

section Reading

theorem readMember_behindQuote_iff (steady : fields.Steady) (m : MemberText)
    {rest rest' : List Char} (separated : Separated (m.after ++ rest)) {old new : Draft types} :
    fields.readMember room old (m.behindQuote rest) = .ok (new, rest') ↔
      rest' = m.after ++ rest ∧ fields.Enters room m old new := by
  simp only [readMember, m.readString_behindQuote, Except.bind, Enters]
  cases slot : fields.slot m.name old with
  | filled name => simp
  | unknown =>
    simp only [m.readColon_behindKey, m.skip_fromValue separated, Except.map, Except.ok.injEq,
      Prod.mk.injEq]
    constructor
    · rintro ⟨rfl, rfl⟩
      exact ⟨rfl, rfl⟩
    · rintro ⟨rfl, rfl⟩
      exact ⟨rfl, rfl⟩
  | vacant reader =>
    simp only [m.readColon_behindKey]
    exact m.run_fromValue_iff (steady_of_slot steady slot room) separated

theorem readMembers_join_iff (steady : fields.Steady) {members : List MemberText} {first : Bool}
    {blanks after rest : List Char} (isBlanks : Blanks blanks) {old new : Draft types} :
    fields.readMembers room first old (blanks ++ MemberText.join first members ('}' :: after)) =
        .ok (new, rest) ↔
      rest = after ∧ fields.EntersAll room members old new := by
  induction members generalizing first blanks old with
  | nil =>
    rw [readMembers_eq, MemberText.keyTurn_join_nil isBlanks]
    simp only [Except.bind, Except.ok.injEq, Prod.mk.injEq, EntersAll]
    constructor
    · rintro ⟨rfl, rfl⟩
      exact ⟨rfl, rfl⟩
    · rintro ⟨rfl, rfl⟩
      exact ⟨rfl, rfl⟩
  | cons m more ih =>
    have separated := m.separated_join more after
    rw [readMembers_eq, MemberText.keyTurn_join_cons isBlanks]
    constructor
    · intro read
      obtain ⟨_, ⟨⟩, readPart⟩ := bind_eq_ok.1 read
      obtain ⟨⟨next, behind⟩, isMember, readMore⟩ := bind_eq_ok.1 readPart
      obtain ⟨rfl, enters⟩ := (readMember_behindQuote_iff steady m separated).1 isMember
      obtain ⟨rfl, entersAll⟩ := (ih m.isBlanks_after).1 readMore
      exact ⟨rfl, next, enters, entersAll⟩
    · rintro ⟨rfl, next, enters, entersAll⟩
      have isMember := (readMember_behindQuote_iff steady m separated).2 ⟨rfl, enters⟩
      have isMore : fields.readMembers room false next
          (m.after ++ MemberText.join false more ('}' :: rest)) = .ok (new, rest) :=
        (ih m.isBlanks_after).2 ⟨rfl, entersAll⟩
      exact bind_eq_ok.2 ⟨_, rfl, bind_eq_ok.2 ⟨_, isMember, isMore⟩⟩

/-- Whatever a record is read from has members. -/
theorem exists_members_of_readMembers (steady : fields.Steady) {first : Bool}
    {old new : Draft types} {text rest : List Char}
    (read : fields.readMembers room first old text = .ok (new, rest)) :
    ∃ blanks members, Blanks blanks ∧
      text = blanks ++ MemberText.join first members ('}' :: rest) := by
  fun_induction readMembers fields room first old text with
  | case1 => cases read
  | case2 first old text last turned =>
    cases read
    obtain ⟨blanks, rfl, isBlanks⟩ := exists_of_keyTurn_close turned
    exact ⟨blanks, [], isBlanks, by rw [MemberText.join]⟩
  | case3 => cases read
  | case4 first old text start turned next last isMember _ ih =>
    obtain ⟨blanks, before, isBlanks, isBlanks', rfl⟩ := exists_of_keyTurn_part turned
    -- The blanks behind this member are passed over only when the next turn is looked for.
    obtain ⟨after, more, isBlanks'', isLast⟩ := ih read
    obtain ⟨key, afterKey, afterColon, readKey, colon, skipped⟩ :=
      exists_of_readMember steady isMember
    obtain ⟨m, rfl, rfl⟩ :=
      MemberText.exists_of_read readKey colon skipped isBlanks' isBlanks'' isLast
    refine ⟨blanks, m :: more, isBlanks, ?_⟩
    cases first with
    | true => simp [MemberText.join]
    | false => simp [MemberText.join]

end Reading

/-! ### The order of members does not matter -/

theorem gives_of_fresh {m : MemberText} (fresh : m.name ∉ fields.names) (members : List MemberText)
    {old new : Draft types} :
    fields.Gives room (m :: members) old new ↔ fields.Gives room members old new := by
  induction fields with
  | nil => exact Iff.rfl
  | cons field more ih =>
    obtain ⟨value, others⟩ := old
    obtain ⟨value', others'⟩ := new
    have other : m.name ≠ field.name := fun same => fresh (same ▸ List.mem_cons_self)
    have freshMore : m.name ∉ more.names := fun member => fresh (List.mem_cons_of_mem _ member)
    rw [Gives, Gives, Field.Gives, Field.Gives, valuesOf_cons_of_ne other, ih freshMore]

theorem gives_nil {old new : Draft types} : fields.Gives room [] old new ↔ new = old := by
  induction fields with
  | nil => exact ⟨fun _ => rfl, fun _ => trivial⟩
  | cons field more ih =>
    obtain ⟨value, others⟩ := old
    obtain ⟨value', others'⟩ := new
    rw [Gives, ih]
    constructor
    · rintro ⟨⟨-, rfl⟩ | ⟨_, _, isValue, -⟩, rfl⟩
      · rfl
      · cases isValue
    · intro same
      obtain ⟨rfl, rfl⟩ := Prod.mk.inj same
      exact ⟨.inl ⟨rfl, rfl⟩, rfl⟩

section Cons

variable {α : Type} {field : Field α} {more : Fields types} {m : MemberText}
  {value : Option α} {others : Draft types} {next : Draft (α :: types)}

/-- A member with a field's name is entered there, if nothing has been. -/
theorem enters_cons_self (named : m.name = field.name) :
    (Fields.cons field more).Enters room m (value, others) next ↔
      value = none ∧
        ∃ a, (field.codec.reader room).readAll m.value = .ok a ∧ (some a, others) = next := by
  cases value with
  | some b => simp [Enters, slot, named]
  | none =>
    have isVacant : (Fields.cons field more).slot m.name (none, others) =
        .vacant fun room => (field.codec.reader room).map fun a => (some a, others) := if_pos named
    unfold Enters
    rw [isVacant]
    exact Reader.readAll_map_iff.trans (and_iff_right rfl).symm

/-- A member with another name is entered among the other fields. -/
theorem enters_cons_of_ne (other : m.name ≠ field.name) :
    (Fields.cons field more).Enters room m (value, others) next ↔
      ∃ others', more.Enters room m others others' ∧ (value, others') = next := by
  have elsewhere : (Fields.cons field more).slot m.name (value, others) =
      (more.slot m.name others).map fun others => (value, others) := if_neg other
  unfold Enters
  rw [elsewhere]
  cases more.slot m.name others with
  | unknown =>
    constructor
    · rintro rfl
      exact ⟨others, rfl, rfl⟩
    · rintro ⟨others', rfl, rfl⟩
      rfl
  | filled name => simp [Slot.map]
  | vacant reader => exact Reader.readAll_map_iff

end Cons

/-- One more member of an object is entered before the others change the draft. -/
theorem gives_cons_iff (distinct : fields.names.Nodup) (m : MemberText)
    (members : List MemberText) {old new : Draft types} :
    fields.Gives room (m :: members) old new ↔
      ∃ next, fields.Enters room m old next ∧ fields.Gives room members next new := by
  induction fields with
  | nil => exact ⟨fun _ => ⟨old, rfl, trivial⟩, fun _ => trivial⟩
  | cons field more ih =>
    obtain ⟨value, others⟩ := old
    obtain ⟨value', others'⟩ := new
    obtain ⟨fresh, distinctMore⟩ := List.nodup_cons.1 distinct
    by_cases named : m.name = field.name
    · have freshMore : m.name ∉ more.names := fun member => fresh (named ▸ member)
      have values : valuesOf field.name (m :: members) = m.value :: valuesOf field.name members := by
        rw [← named, valuesOf_cons_self]
      simp only [enters_cons_self named, Gives, gives_of_fresh freshMore, Field.Gives, values]
      constructor
      · rintro ⟨⟨isNil, -⟩ | ⟨text, a, isText, rfl, rfl, isRead⟩, givesMore⟩
        · cases isNil
        · obtain ⟨rfl, noOther⟩ := List.cons.inj isText
          exact ⟨_, ⟨rfl, a, isRead, rfl⟩, .inl ⟨noOther, rfl⟩, givesMore⟩
      · rintro ⟨_, ⟨rfl, a, isRead, rfl⟩, ⟨noOther, rfl⟩ | ⟨_, _, _, isNone, _⟩, givesMore⟩
        · exact ⟨.inr ⟨m.value, a, by rw [noOther], rfl, rfl, isRead⟩, givesMore⟩
        · cases isNone
    · simp only [enters_cons_of_ne named, Gives, Field.Gives, valuesOf_cons_of_ne named,
        ih distinctMore]
      constructor
      · rintro ⟨gives, next, enters, givesMore⟩
        exact ⟨_, ⟨next, enters, rfl⟩, gives, givesMore⟩
      · rintro ⟨_, ⟨next, enters, rfl⟩, gives, givesMore⟩
        exact ⟨gives, next, enters, givesMore⟩

/-- **Members one after another change a draft as they do together**, in no order. -/
theorem entersAll_iff_gives (distinct : fields.names.Nodup) {members : List MemberText}
    {old new : Draft types} :
    fields.EntersAll room members old new ↔ fields.Gives room members old new := by
  induction members generalizing old with
  | nil => exact gives_nil.symm
  | cons m more ih =>
    rw [gives_cons_iff distinct, EntersAll]
    simp only [ih]

/-- What members make of nothing, completed by defaults, is what they denote. -/
theorem exists_gives_and_complete_iff {members : List MemberText} {row : Row types} :
    (∃ draft, fields.Gives room members fields.blank draft ∧ fields.complete draft = .ok row) ↔
      fields.Denotes room members row := by
  induction fields with
  | nil => exact ⟨fun _ => trivial, fun _ => ⟨(), trivial, rfl⟩⟩
  | cons field more ih =>
    obtain ⟨a, row⟩ := row
    rw [Denotes, ← ih]
    constructor
    · rintro ⟨⟨value, others⟩, ⟨gives, givesMore⟩, complete⟩
      rw [Fields.complete] at complete
      split at complete
      · cases complete
      · rename_i b isValue
        obtain ⟨row, completeMore, same⟩ := map_eq_ok.1 complete
        obtain ⟨rfl, rfl⟩ := Prod.mk.inj same
        refine ⟨?_, others, givesMore, completeMore⟩
        rcases gives with ⟨noValue, rfl⟩ | ⟨text, b', isText, -, rfl, isRead⟩
        · exact .inl ⟨noValue, isValue⟩
        · cases isValue
          exact .inr ⟨text, isText, isRead⟩
    · rintro ⟨denotes, others, givesMore, completeMore⟩
      rcases denotes with ⟨noValue, isDefault⟩ | ⟨text, isText, isRead⟩
      · refine ⟨(none, others), ⟨.inl ⟨noValue, rfl⟩, givesMore⟩, ?_⟩
        simp [Fields.complete, isDefault, completeMore, Except.map]
      · refine ⟨(some a, others), ⟨.inr ⟨text, a, isText, rfl, rfl, isRead⟩, givesMore⟩, ?_⟩
        simp [Fields.complete, completeMore, Except.map]

end Fields

namespace Codec

variable {α : Type} {types : List Type} {name : String} {fields : Fields types}
  {build : Row types → α} {parts : α → Row types} {room : Nat}

/-- A record that starts with a brace is read member by member. -/
theorem record_run_of_brace {text start : List Char} (front : skipBlanks text = '{' :: start) :
    ((record name fields build parts).reader (room + 1)).run text =
      (fields.readMembers room true fields.blank start).bind fun (draft, rest) =>
        (fields.complete draft).map fun row => (build row, rest) := by
  simp only [record, Reader.front, front, if_true]

/-- **A record is read from an object just if the object's members denote its fields**: the members
that have their names, in any order, and no others. -/
theorem record_readAll_iff (steady : fields.Steady) (distinct : fields.names.Nodup)
    {members : List MemberText} {text : List Char} (isObject : IsObjectText members text) {a : α} :
    ((record name fields build parts).reader (room + 1)).readAll text = .ok a ↔
      ∃ row, fields.Denotes room members row ∧ build row = a := by
  obtain ⟨before, inside, after, isBlanks, isBlanks', isBlanks'', rfl⟩ := isObject
  have front : skipBlanks
        (before ++ '{' :: (inside ++ MemberText.join true members ('}' :: after))) =
      '{' :: (inside ++ MemberText.join true members ('}' :: after)) := by
    have notBlank : isBlank '{' = false := rfl
    rw [skipBlanks_append isBlanks, skipBlanks_cons notBlank]
  rw [Reader.readAll_eq_ok_iff, record_run_of_brace front]
  constructor
  · rintro ⟨rest, isRead, -⟩
    obtain ⟨⟨draft, last⟩, readMembers, built⟩ := bind_eq_ok.1 isRead
    obtain ⟨row, complete, same⟩ := map_eq_ok.1 built
    obtain ⟨rfl, rfl⟩ := Prod.mk.inj same
    obtain ⟨-, entersAll⟩ := (Fields.readMembers_join_iff steady isBlanks').1 readMembers
    have gives := (Fields.entersAll_iff_gives distinct).1 entersAll
    exact ⟨row, Fields.exists_gives_and_complete_iff.1 ⟨draft, gives, complete⟩, rfl⟩
  · rintro ⟨row, denotes, rfl⟩
    obtain ⟨draft, gives, complete⟩ := Fields.exists_gives_and_complete_iff.2 denotes
    have entersAll := (Fields.entersAll_iff_gives distinct).2 gives
    have readMembers : fields.readMembers room true fields.blank
        (inside ++ MemberText.join true members ('}' :: after)) = .ok (draft, after) :=
      (Fields.readMembers_join_iff steady isBlanks').2 ⟨rfl, entersAll⟩
    exact ⟨after, bind_eq_ok.2 ⟨_, readMembers, map_eq_ok.2 ⟨row, complete, rfl⟩⟩, isBlanks''⟩

/-- Whatever starts like an object and is read as a record is an object. -/
theorem exists_members_of_record (steady : fields.Steady) {text start : List Char} {a : α}
    (front : skipBlanks text = '{' :: start)
    (isRead : ((record name fields build parts).reader (room + 1)).readAll text = .ok a) :
    ∃ members, IsObjectText members text := by
  obtain ⟨rest, run, isBlanks⟩ := Reader.readAll_eq_ok_iff.1 isRead
  obtain ⟨before, rfl, isBlanksBefore, -⟩ := skipBlanks_eq_cons_iff.1 front
  rw [record_run_of_brace front] at run
  obtain ⟨⟨draft, last⟩, readMembers, built⟩ := bind_eq_ok.1 run
  obtain ⟨row, -, same⟩ := map_eq_ok.1 built
  obtain ⟨-, rfl⟩ := Prod.mk.inj same
  obtain ⟨inside, members, isBlanksInside, rfl⟩ :=
    Fields.exists_members_of_readMembers steady readMembers
  exact ⟨members, before, inside, last, isBlanksBefore, isBlanksInside, isBlanks, rfl⟩

end Codec

end WalletView.Json
