/-
# Proofs.Json.Object — an object is its members

An object's text is its members' texts, joined with commas (`IsObjectText`).  Whatever reader reads
it goes from member to member as they stand there: a steady reader reads a member's value as it would
read the value by itself (`MemberText.run_fromValue_iff`).  So what is read of an object is told by
the names that its members spell and by the texts of their values, and neither by how the names are
spelled nor by the blanks between.

Read as a map, an object is the list of its members (`Reader.members_readAll_iff`).
-/
import WalletView.Proofs.Json.SteadyRecord

set_option autoImplicit false

namespace WalletView.Json

/-! ## Texts of objects -/

/-- A member of an object as it is written, with the blanks around its parts. -/
structure MemberText where
  name : String
  before : List Char
  key : List Char
  beforeColon : List Char
  beforeValue : List Char
  value : List Char
  after : List Char
  isBlanks_before : Blanks before
  isBlanks_beforeColon : Blanks beforeColon
  isBlanks_beforeValue : Blanks beforeValue
  isBlanks_after : Blanks after
  spells : Spells key name.toList
  isValue : IsValue value

namespace MemberText

/-- The text of a member from its value on. -/
def fromValue (m : MemberText) (rest : List Char) : List Char :=
  m.beforeValue ++ (m.value ++ (m.after ++ rest))

/-- The text of a member behind the opening quote of its key. -/
def behindQuote (m : MemberText) (rest : List Char) : List Char :=
  m.key ++ '"' :: (m.beforeColon ++ ':' :: m.fromValue rest)

/-- The text of members up to the rest, with a comma in front of each but perhaps the first. -/
def join : (first : Bool) → List MemberText → (rest : List Char) → List Char
  | _, [], rest => rest
  | true, m :: more, rest => m.before ++ '"' :: m.behindQuote (join false more rest)
  | false, m :: more, rest => ',' :: (m.before ++ '"' :: m.behindQuote (join false more rest))

end MemberText

/-- The text is an object with these members, and blanks around it. -/
def IsObjectText (members : List MemberText) (text : List Char) : Prop :=
  ∃ before inside after, Blanks before ∧ Blanks inside ∧ Blanks after ∧
    text = before ++ '{' :: (inside ++ MemberText.join true members ('}' :: after))

namespace MemberText

/-- Behind any member of an object comes what may follow a value. -/
theorem separated_join (m : MemberText) (members : List MemberText) (after : List Char) :
    Separated (m.after ++ join false members ('}' :: after)) := by
  cases members with
  | nil => exact separated_append m.isBlanks_after rfl after
  | cons m' more => exact separated_append m.isBlanks_after rfl _

theorem keyTurn_join_nil {blanks : List Char} (isBlanks : Blanks blanks) (first : Bool)
    (after : List Char) : keyTurn first (blanks ++ join first [] ('}' :: after)) = .ok (.close after) := by
  have front : skipBlanks ('}' :: after) = '}' :: after := skipBlanks_cons rfl
  simp [keyTurn, join, skipBlanks_append isBlanks, front]

theorem keyTurn_join_cons {blanks : List Char} (isBlanks : Blanks blanks) (first : Bool)
    (m : MemberText) (more : List MemberText) (rest : List Char) :
    keyTurn first (blanks ++ join first (m :: more) rest) =
      .ok (.part (m.behindQuote (join false more rest))) := by
  have quote (text : List Char) : skipBlanks (m.before ++ '"' :: text) = '"' :: text := by
    rw [skipBlanks_append m.isBlanks_before, skipBlanks_cons rfl]
  have comma (text : List Char) : skipBlanks (',' :: text) = ',' :: text := skipBlanks_cons rfl
  cases first with
  | true => simp [keyTurn, join, skipBlanks_append isBlanks, quote]
  | false => simp [keyTurn, join, skipBlanks_append isBlanks, comma, quote]

theorem readString_behindQuote (m : MemberText) (rest : List Char) :
    readString (m.behindQuote rest) = .ok (m.name, m.beforeColon ++ ':' :: m.fromValue rest) :=
  readString_eq_ok_iff.2 ⟨m.key, rfl, m.spells⟩

theorem readColon_behindKey (m : MemberText) (rest : List Char) :
    readColon (m.beforeColon ++ ':' :: m.fromValue rest) = .ok (m.fromValue rest) := by
  have front : skipBlanks (':' :: m.fromValue rest) = ':' :: m.fromValue rest := skipBlanks_cons rfl
  simp [readColon, skipBlanks_append m.isBlanks_beforeColon, front]

/-- A member's value is passed over, and just that. -/
theorem skip_fromValue (m : MemberText) {rest : List Char} (separated : Separated (m.after ++ rest)) :
    skip (m.fromValue rest) = .ok (m.after ++ rest) :=
  skip_eq_ok_iff.2
    ⟨m.beforeValue, m.value, rfl, m.isBlanks_beforeValue, m.isValue, separated.valueEnds _⟩

variable {α : Type} {r : Reader α}

/-- **A member's value is read as it is read by itself**, and just that. -/
theorem run_fromValue_iff (m : MemberText) (steady : r.Steady) {rest rest' : List Char} {a : α}
    (separated : Separated (m.after ++ rest)) :
    r.run (m.fromValue rest) = .ok (a, rest') ↔
      rest' = m.after ++ rest ∧ r.readAll m.value = .ok a := by
  have noBlanks : r.run (m.fromValue rest) = r.run (m.value ++ (m.after ++ rest)) := by
    rw [steady.looks (m.fromValue rest), fromValue, skipBlanks_append m.isBlanks_beforeValue,
      ← steady.looks]
  have alone : skip m.value = .ok [] :=
    skip_eq_ok_iff.2 ⟨[], m.value, by simp, .nil, m.isValue, fun n _ => .nil n⟩
  constructor
  · intro run
    have passed := steady.passes run
    rw [m.skip_fromValue separated] at passed
    cases passed
    have run : r.run (m.value ++ (m.after ++ rest)) = .ok (a, [] ++ (m.after ++ rest)) :=
      noBlanks.symm.trans run
    exact ⟨rfl, Reader.readAll_eq_ok_iff.2 ⟨[], steady.settled.cut run, .nil⟩⟩
  · rintro ⟨rfl, isRead⟩
    obtain ⟨left, run, -⟩ := Reader.readAll_eq_ok_iff.1 isRead
    have passed := steady.passes run
    rw [alone] at passed
    cases passed
    rw [noBlanks]
    exact steady.settled.extend run fun _ _ => separated

end MemberText

/-! ## Every object has members -/

theorem exists_of_keyTurn_close {first : Bool} {text rest : List Char}
    (turned : keyTurn first text = .ok (.close rest)) :
    ∃ blanks, text = blanks ++ '}' :: rest ∧ Blanks blanks := by
  unfold keyTurn at turned
  split at turned
  · cases turned
  · rename_i front
    obtain ⟨blanks, rfl, isBlanks, -⟩ := skipBlanks_eq_cons_iff.1 front
    split at turned
    · rename_i isClose
      cases turned
      rw [isClose]
      exact ⟨blanks, rfl, isBlanks⟩
    split at turned
    · split at turned <;> cases turned
    split at turned
    · split at turned
      · cases turned
      split at turned
      · cases turned
      split at turned <;> cases turned
    · cases turned

theorem exists_of_keyTurn_part {first : Bool} {text start : List Char}
    (turned : keyTurn first text = .ok (.part start)) :
    ∃ blanks before, Blanks blanks ∧ Blanks before ∧
      text = blanks ++ ((if first then [] else [',']) ++ (before ++ '"' :: start)) := by
  unfold keyTurn at turned
  split at turned
  · cases turned
  · rename_i front
    obtain ⟨blanks, rfl, isBlanks, -⟩ := skipBlanks_eq_cons_iff.1 front
    split at turned
    · cases turned
    split at turned
    · rename_i isFirst
      split at turned
      · rename_i isQuote
        cases turned
        exact ⟨blanks, [], isBlanks, .nil, by simp [isFirst, isQuote]⟩
      · cases turned
    split at turned
    · rename_i notFirst isComma
      split at turned
      · cases turned
      · rename_i front'
        obtain ⟨before, rfl, isBlanks', -⟩ := skipBlanks_eq_cons_iff.1 front'
        split at turned
        · rename_i isQuote
          cases turned
          exact ⟨blanks, before, isBlanks, isBlanks', by simp [notFirst, isComma, isQuote]⟩
        split at turned <;> cases turned
    · cases turned

namespace MemberText

theorem exists_of_read {start afterKey afterColon last : List Char} {name : String}
    (readKey : readString start = .ok (name, afterKey))
    (colon : readColon afterKey = .ok afterColon) (skipped : skip afterColon = .ok last)
    {before after rest : List Char} (isBlanks : Blanks before) (isBlanks' : Blanks after)
    (isLast : last = after ++ rest) :
    ∃ m : MemberText, m.before = before ∧ start = m.behindQuote rest := by
  obtain ⟨key, rfl, spells⟩ := readString_eq_ok_iff.1 readKey
  obtain ⟨beforeColon, rfl, isBlanksColon⟩ := exists_of_readColon colon
  obtain ⟨beforeValue, value, rfl, isBlanksValue, isValue, -⟩ := skip_eq_ok_iff.1 skipped
  rw [isLast]
  exact ⟨⟨name, before, key, beforeColon, beforeValue, value, after, isBlanks, isBlanksColon,
    isBlanksValue, isBlanks', spells, isValue⟩, rfl, rfl⟩

/-- A member that is written without blanks, and its name as it is, since all its characters may
stand for themselves. -/
def unspaced (name : String) (value : List Char)
    (isPlain : (name.toList.all fun c => decide (IsPlain c)) = true) (isValue : IsValue value) :
    MemberText where
  name
  before := []
  key := name.toList
  beforeColon := []
  beforeValue := []
  value
  after := []
  isBlanks_before := .nil
  isBlanks_beforeColon := .nil
  isBlanks_beforeValue := .nil
  isBlanks_after := .nil
  spells := spells_of_isPlain fun c member => of_decide_eq_true (List.all_eq_true.1 isPlain c member)
  isValue

section Unspaced

variable {name : String} {value : List Char}
  {isPlain : (name.toList.all fun c => decide (IsPlain c)) = true} {isValue : IsValue value}

@[simp] theorem before_unspaced : (unspaced name value isPlain isValue).before = [] :=
  rfl

@[simp] theorem behindQuote_unspaced (rest : List Char) :
    (unspaced name value isPlain isValue).behindQuote rest =
      name.toList ++ '"' :: ':' :: (value ++ rest) :=
  rfl

end Unspaced

end MemberText

/-! ## Objects read as maps -/

section Maps

variable {α : Type} {r : Reader α}

theorem readMember_behindQuote_iff (steady : r.Steady) (m : MemberText) {rest rest' : List Char}
    (separated : Separated (m.after ++ rest)) {entry : String × α} :
    readMember r (m.behindQuote rest) = .ok (entry, rest') ↔
      rest' = m.after ++ rest ∧ m.name = entry.1 ∧ r.readAll m.value = .ok entry.2 := by
  obtain ⟨name, a⟩ := entry
  simp only [readMember, m.readString_behindQuote, Except.bind, m.readColon_behindKey, map_eq_ok,
    Prod.exists, Prod.mk.injEq]
  constructor
  · rintro ⟨a, rest, run, ⟨rfl, rfl⟩, rfl⟩
    obtain ⟨rfl, isRead⟩ := (m.run_fromValue_iff steady separated).1 run
    exact ⟨rfl, rfl, isRead⟩
  · rintro ⟨rfl, rfl, isRead⟩
    exact ⟨a, _, (m.run_fromValue_iff steady separated).2 ⟨rfl, isRead⟩, ⟨rfl, rfl⟩, rfl⟩

/-- **An object read as a map is the list of its members**, in the order of the text. -/
theorem readMembers_join_iff (steady : r.Steady) {members : List MemberText} {first : Bool}
    {blanks after rest : List Char} (isBlanks : Blanks blanks) {entries : List (String × α)} :
    readMembers r first (blanks ++ MemberText.join first members ('}' :: after)) =
        .ok (entries, rest) ↔
      rest = after ∧ List.Forall₂ (fun m entry => m.name = entry.1 ∧ r.readAll m.value = .ok entry.2)
        members entries := by
  -- The blanks behind a member stand in front of what the induction is about next.
  induction members generalizing first blanks entries with
  | nil =>
    rw [readMembers_eq, MemberText.keyTurn_join_nil isBlanks]
    simp only [Except.bind, Except.ok.injEq, Prod.mk.injEq, List.forall₂_nil_left_iff]
    constructor
    · rintro ⟨rfl, rfl⟩
      exact ⟨rfl, rfl⟩
    · rintro ⟨rfl, rfl⟩
      exact ⟨rfl, rfl⟩
  | cons m more ih =>
    have separated := m.separated_join more after
    rw [readMembers_eq, MemberText.keyTurn_join_cons isBlanks]
    constructor
    · intro read
      obtain ⟨_, ⟨⟩, readPart⟩ := bind_eq_ok.1 read
      obtain ⟨⟨entry, next⟩, isMember, readMore⟩ := bind_eq_ok.1 readPart
      obtain ⟨⟨others, last⟩, isMore, same⟩ := map_eq_ok.1 readMore
      obtain ⟨rfl, rfl⟩ := Prod.mk.inj same
      obtain ⟨rfl, isEntry⟩ := (readMember_behindQuote_iff steady m separated).1 isMember
      obtain ⟨rfl, areEntries⟩ := (ih m.isBlanks_after).1 isMore
      exact ⟨rfl, .cons isEntry areEntries⟩
    · rintro ⟨rfl, areEntries⟩
      cases areEntries with
      | @cons _ entry _ others isEntry areEntries =>
        have isMember := (readMember_behindQuote_iff steady m separated).2 ⟨rfl, isEntry⟩
        have isMore : readMembers r false (m.after ++ MemberText.join false more ('}' :: rest)) =
            .ok (others, rest) := (ih m.isBlanks_after).2 ⟨rfl, areEntries⟩
        exact bind_eq_ok.2 ⟨_, rfl, bind_eq_ok.2 ⟨_, isMember, map_eq_ok.2 ⟨_, isMore, rfl⟩⟩⟩

/-- **A map is read from an object just if its entries are what the members say**, in their order. -/
theorem Reader.members_readAll_iff {expected : Expected} {inner : Nat → Reader α} {room : Nat}
    (steady : (inner room).Steady) {members : List MemberText} {text : List Char}
    (isObject : IsObjectText members text) {entries : List (String × α)} :
    (Reader.members expected inner (room + 1)).readAll text = .ok entries ↔
      List.Forall₂ (fun m entry => m.name = entry.1 ∧ (inner room).readAll m.value = .ok entry.2)
        members entries := by
  obtain ⟨before, inside, after, isBlanks, isBlanks', isBlanks'', rfl⟩ := isObject
  have notBlank : isBlank '{' = false := rfl
  have run : (Reader.members expected inner (room + 1)).run
        (before ++ '{' :: (inside ++ MemberText.join true members ('}' :: after))) =
      readMembers (inner room) true (inside ++ MemberText.join true members ('}' :: after)) := by
    simp only [Reader.members, Reader.front, skipBlanks_append isBlanks, skipBlanks_cons notBlank,
      if_true]
  rw [Reader.readAll_eq_ok_iff, run]
  simp only [readMembers_join_iff steady isBlanks']
  constructor
  · rintro ⟨rest, ⟨-, areEntries⟩, -⟩
    exact areEntries
  · intro areEntries
    exact ⟨after, ⟨rfl, areEntries⟩, isBlanks''⟩

end Maps

end WalletView.Json
