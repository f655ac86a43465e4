/-
# Proofs.Json.SteadyRecord — steady codecs

A codec is steady if its reader is, however much room there is.  The codecs of single values are
steady, those of lists, maps and cases are, and a record's is if its fields' are
(`record_steady`), whether the record stands as an object or as a list.
-/
import WalletView.Json.Record
import WalletView.Proofs.Json.Record
import WalletView.Proofs.Json.SteadyReader

set_option autoImplicit false

namespace WalletView.Json

/-- The codec's reader is steady. -/
def Codec.Steady {α : Type} (c : Codec α) : Prop :=
  ∀ room, (c.reader room).Steady

/-! ## Names of cases -/

theorem readUnit_steady : Steady Closed (passing readUnit) := by
  have atEnd : (ReadError.ended .value).category ≠ .data := nofun
  refine steady_ahead atEnd
    (fun c rest =>
      if c = 'n' then passing (readWord ['u', 'l', 'l']) rest
      else .error (mismatch .unit c rest)) ?_ fun c => ?_
  · intro text
    rw [passing, readUnit]
    cases skipBlanks text with
    | nil => rfl
    | cons c rest => by_cases isN : c = 'n' <;> simp [isN, passing, Except.map]
  · exact steady_ite (fun _ => readWord_steady _) fun _ => steady_error _

theorem skip_of_readUnit {text rest : List Char} (read : readUnit text = .ok rest) :
    skip text = .ok rest := by
  unfold readUnit at read
  split at read
  · cases read
  · rename_i c more front
    split at read
    · rename_i isN
      subst isN
      rw [Reader.skip_blanks front]
      exact skip_null read
    · cases read

/-- The brace that closes the object of a case's name. -/
def closeName (name : String) (text : List Char) : Outcome String :=
  match skipBlanks text with
  | [] => .error (.ended .object)
  | c :: rest => if c = '}' then .ok (name, rest) else .error .expectedValue

theorem closeName_steady (name : String) : Steady Closed (closeName name) := by
  have atEnd : (ReadError.ended .object).category ≠ .data := nofun
  refine steady_ahead atEnd
    (fun c rest => if c = '}' then .ok (name, rest) else .error .expectedValue) (fun _ => rfl)
    fun c => ?_
  exact steady_ite (fun _ => steady_const (.ok name)) fun _ => steady_error fun _ => .expectedValue

/-- A name in braces, from behind its opening quote. -/
def readNameBehindQuote (text : List Char) : Outcome String :=
  (readString text).bind fun (name, rest) =>
    (readColon rest).bind fun rest => (readUnit rest).bind (closeName name)

theorem readNameBehindQuote_steady : Steady Closed readNameBehindQuote :=
  readString_steady.bind_closed fun name =>
    readColon_steady.passing_bind (readUnit_steady.passing_bind (closeName_steady name))

theorem readNameInBraces_steady : Steady Closed readNameInBraces := by
  have atEnd : (ReadError.ended .object).category ≠ .data := nofun
  refine steady_ahead atEnd
    (fun c rest =>
      if c = '"' then readNameBehindQuote rest
      else .error (if c = '}' then .expectedValue else .keyNotString)) (fun _ => rfl) fun c => ?_
  exact steady_ite (fun _ => readNameBehindQuote_steady) fun _ => steady_error _

theorem skip_of_readNameInBraces {text rest : List Char} {name : String}
    (read : readNameInBraces text = .ok (name, rest)) : skip ('{' :: text) = .ok rest := by
  unfold readNameInBraces at read
  split at read
  · cases read
  · rename_i c start front
    split at read
    · rename_i isQuote
      subst isQuote
      obtain ⟨⟨key, afterKey⟩, readKey, behindKey⟩ := bind_eq_ok.1 read
      obtain ⟨afterColon, colon, behindColon⟩ := bind_eq_ok.1 behindKey
      obtain ⟨afterUnit, unit, closed⟩ := bind_eq_ok.1 behindColon
      split at closed
      · cases closed
      · rename_i d last front'
        split at closed
        · rename_i isClose
          cases closed
          subst isClose
          have turned : keyTurn true text = .ok (.part start) := by simp [keyTurn, front]
          have goesOn := skipValue_of_skip (skip_of_readUnit unit) [.object]
          refine (skip_opening .object text).trans ?_
          rw [skipTurn_of_keyTurn turned]
          simp only [passString_bind_readColon readKey colon]
          refine goesOn.trans ?_
          simp [skipAfter_cons, front', Bracket.close, skipAfter_nil]
        · cases closed
    · cases read

theorem Reader.caseName_steady (room : Nat) : (Reader.caseName room).Steady := by
  refine Reader.front_steady (fun c => ?_) ?_
  · refine steady_ite (fun _ => readString_steady.openEnded) fun _ => steady_ite (fun _ => ?_)
      fun _ => steady_error fun _ => .expectedValue
    cases room with
    | zero => exact steady_error fun _ => .tooDeep
    | succ room => exact readNameInBraces_steady.openEnded
  · intro c more rest s _ read
    split at read
    · rename_i isQuote
      exact isQuote ▸ skip_string read
    split at read
    · rename_i isObject
      cases room with
      | zero => cases read
      | succ room => exact isObject ▸ skip_of_readNameInBraces read
    · cases read

/-! ## Codecs -/

namespace Codec

variable {α β : Type} {c : Codec α}

theorem string_steady : string.Steady :=
  fun _ => Reader.string_steady

theorem boolean_steady : boolean.Steady :=
  fun _ => Reader.boolean_steady

theorem word_steady : word.Steady :=
  fun _ => Reader.word_steady

theorem any_steady : any.Steady :=
  freeForm_steady

theorem option_steady (steady : c.Steady) : c.option.Steady :=
  fun room => Reader.option_steady (steady room)

theorem via_steady {ofRaw : α → β} {toRaw : β → α} (steady : c.Steady) :
    (c.via ofRaw toRaw).Steady :=
  fun room => Reader.map_steady (steady room) ofRaw

theorem cases_steady {ofName : String → α} {name : α → String} : (cases ofName name).Steady :=
  fun room => Reader.map_steady (Reader.caseName_steady room) ofName

theorem list_steady (steady : c.Steady) : c.list.Steady :=
  Reader.list_steady steady

theorem idMap_steady (steady : c.Steady) : c.idMap.Steady :=
  fun room => Reader.map_steady (Reader.members_steady .idMap steady room) IdMap.ofList

theorem sortedMap_steady (steady : c.Steady) : c.sortedMap.Steady :=
  fun room => Reader.map_steady (Reader.members_steady .map steady room) SortedMap.ofList

end Codec

/-! ## Fields -/

theorem readListEnd_steady : Steady Closed (passing Fields.readListEnd) := by
  have atEnd : (ReadError.ended .list).category ≠ .data := nofun
  refine steady_ahead atEnd
    (fun c rest =>
      if c = ']' then .ok ((), rest)
      else .error <|
        if c = ',' ∧ (skipBlanks rest).head? = some ']' then .trailingComma else .trailingText) ?_
    fun c => ?_
  · intro text
    rw [passing, Fields.readListEnd]
    cases skipBlanks text with
    | nil => rfl
    | cons c rest =>
      dsimp only
      split
      · rfl
      split <;> rfl
  · exact steady_ite (fun _ => steady_const (.ok ())) fun _ => steady_error _

theorem skipTurn_of_readListEnd {text rest : List Char} (read : Fields.readListEnd text = .ok rest)
    (frames : List Bracket) (first : Bool) :
    skipTurn .list frames first text = skipAfter frames rest := by
  unfold Fields.readListEnd at read
  split at read
  · cases read
  · rename_i c more front
    split at read
    · rename_i isClose
      cases read
      subst isClose
      cases first with
      | true => simp [skipTurn, skipFirst_eq, front, Bracket.close]
      | false => simp [skipTurn, skipAfter_cons, front, Bracket.close]
    · split at read <;> cases read

namespace Fields

variable {types : List Type} {fields : Fields types}

/-- Every field's codec is steady. -/
def Steady : {types : List Type} → Fields types → Prop
  | _, .nil => True
  | _, .cons field more => field.codec.Steady ∧ more.Steady

theorem steady_of_slot (steady : fields.Steady) {key : String} {draft : Draft types}
    {reader : Nat → Reader (Draft types)} (slot : fields.slot key draft = .vacant reader)
    (room : Nat) : (reader room).Steady := by
  induction fields with
  | nil => cases slot
  | cons field more ih =>
    obtain ⟨value, others⟩ := draft
    obtain ⟨isSteady, steadyMore⟩ := steady
    simp only [Fields.slot] at slot
    split at slot
    · split at slot
      · cases slot
      · cases slot
        exact Reader.map_steady (isSteady room) _
    · cases inner : more.slot key others with
      | unknown => rw [inner] at slot; cases slot
      | filled name => rw [inner] at slot; cases slot
      | vacant innerReader =>
        rw [inner] at slot
        cases slot
        exact Reader.map_steady (ih steadyMore inner) _

theorem behindKey_steady (steady : fields.Steady) (room : Nat) (draft : Draft types)
    (key : String) :
    Json.Steady OpenEnded fun rest =>
      match fields.slot key draft with
      | .filled name => .error (.duplicateField name)
      | .unknown => (readColon rest).bind fun rest => (skip rest).map fun rest => (draft, rest)
      | .vacant reader => (readColon rest).bind (reader room).run := by
  cases slot : fields.slot key draft with
  | filled name => exact steady_error fun _ => .duplicateField name
  | unknown =>
    exact readColon_steady.passing_bind (skip_steady.passing_map draft fun _ => trivial)
  | vacant reader =>
    exact readColon_steady.passing_bind (steady_of_slot steady slot room).settled

theorem readMember_steady (steady : fields.Steady) (room : Nat) (draft : Draft types) :
    Json.Steady OpenEnded (fields.readMember room draft) :=
  readString_steady.bind_closed (behindKey_steady steady room draft)

/-- Whatever the key of a member means, its value is read up to where it is passed over. -/
theorem exists_of_readMember (steady : fields.Steady) {room : Nat} {old new : Draft types}
    {start last : List Char} (read : fields.readMember room old start = .ok (new, last)) :
    ∃ key afterKey afterColon, readString start = .ok (key, afterKey) ∧
      readColon afterKey = .ok afterColon ∧ skip afterColon = .ok last := by
  obtain ⟨⟨key, afterKey⟩, readKey, behindKey⟩ := bind_eq_ok.1 read
  dsimp only at behindKey
  split at behindKey
  · cases behindKey
  · obtain ⟨afterColon, colon, behindColon⟩ := bind_eq_ok.1 behindKey
    obtain ⟨behind, skipped, same⟩ := map_eq_ok.1 behindColon
    obtain ⟨-, rfl⟩ := Prod.mk.inj same
    exact ⟨key, afterKey, afterColon, readKey, colon, skipped⟩
  · rename_i slot
    obtain ⟨afterColon, colon, run⟩ := bind_eq_ok.1 behindKey
    have skipped := (steady_of_slot steady slot room).passes run
    exact ⟨key, afterKey, afterColon, readKey, colon, skipped⟩

/-- One step through the members of a record. -/
def memberStep (fields : Fields types) (room : Nat) (state : Bool × Draft types)
    (text : List Char) : Outcome (Round (Bool × Draft types) (Draft types)) :=
  (keyTurn state.1 text).bind <|
    Turn.elim (fun rest => .ok (.stop state.2, rest)) fun start =>
      (fields.readMember room state.2 start).map fun (draft, rest) => (.go (false, draft) id, rest)

theorem memberStep_part_steady (steady : fields.Steady) (room : Nat) (draft : Draft types) :
    Json.Steady Round.GoesOn fun start =>
      (fields.readMember room draft start).map fun (draft, rest) =>
        ((.go (false, draft) id : Round (Bool × Draft types) (Draft types)), rest) :=
  (readMember_steady steady room draft).map (fun draft => Round.go (false, draft) id)
    fun _ _ => trivial

theorem readMembers_steady (steady : fields.Steady) (room : Nat) (first : Bool)
    (draft : Draft types) : Json.Steady Closed (fields.readMembers room first draft) := by
  refine steady_loop (fields.memberStep room)
    (fun state => fields.readMembers room state.1 state.2) ?_ ?_ ?_ ?_ (first, draft)
  · rintro ⟨first, draft⟩ text
    dsimp only
    rw [readMembers_eq, memberStep]
    cases keyTurn first text with
    | error e => rfl
    | ok turn =>
      cases turn with
      | close rest => rfl
      | part start =>
        cases isRead : fields.readMember room draft start with
        | error e => simp [Except.bind, Turn.elim, isRead, Except.map]
        | ok result =>
          simp only [Except.bind, Turn.elim, isRead, Except.map, Round.continue]
          cases fields.readMembers room false result.1 result.2 <;> rfl
  · rintro ⟨first, draft⟩
    have close : Json.Steady Round.GoesOn fun rest =>
        .ok ((.stop draft : Round (Bool × Draft types) (Draft types)), rest) :=
      steady_const (.ok (Round.stop draft))
    exact steady_keyTurn close (memberStep_part_steady steady room draft) first
  · rintro ⟨first, draft⟩ text rest round step
    obtain ⟨turn, turned, isRead⟩ := bind_eq_ok.1 step
    cases turn with
    | close last =>
      cases isRead
      exact rest_of_keyTurn turned
    | part start =>
      obtain ⟨⟨next, last⟩, isMember, same⟩ := map_eq_ok.1 isRead
      obtain ⟨-, rfl⟩ := Prod.mk.inj same
      exact .of_suffix (keyTurn_suffix turned) (readMember_rest isMember)
  · rintro ⟨first, draft⟩
    exact ⟨_, rfl, by decide⟩

/-- The members of a record are read up to where they are passed over. -/
theorem skipTurn_of_readMembers (steady : fields.Steady) {room : Nat} {first : Bool}
    {draft after : Draft types} {text rest : List Char}
    (read : fields.readMembers room first draft text = .ok (after, rest)) (frames : List Bracket) :
    skipTurn .object frames first text = skipAfter frames rest := by
  fun_induction readMembers fields room first draft text with
  | case1 => cases read
  | case2 first draft text last turned =>
    cases read
    exact skipTurn_of_keyTurn turned frames
  | case3 => cases read
  | case4 first draft text start turned next last isMember _ ih =>
    obtain ⟨key, afterKey, afterColon, readKey, colon, skipped⟩ :=
      exists_of_readMember steady isMember
    have goesOn := skipValue_of_skip skipped (.object :: frames)
    rw [skipTurn_of_keyTurn turned frames]
    simp only [passString_bind_readColon readKey colon]
    exact goesOn.trans (ih read)

/-! ## Fields as the items of a list -/

variable {wrongLength : Nat → ReadError} {room : Nat}

theorem readItems_nil (fields : Fields types) (index : Nat) :
    fields.readItems wrongLength room index [] = .error (.ended .list) := by
  cases fields <;> rfl

theorem readField_steady {α : Type} {field : Field α} {more : Fields types} {index : Nat}
    (steady : field.codec.Steady)
    (steadyMore : Json.Steady Closed (more.readItems wrongLength room index)) (c : Char) :
    Json.Steady Closed fun rest =>
      ((field.codec.reader room).run (c :: rest)).bind fun (a, rest) =>
        (more.readItems wrongLength room index rest).map fun (row, rest) => ((a, row), rest) := by
  refine ((steady room).run_cons c).bind
    (fun a => steadyMore.map (fun row => (a, row)) fun _ isClosed => isClosed) ?_ ?_
  · intro a row rest _ read
    rw [readItems_nil] at read
    cases read
  · intro _ _ _ _ a _ _ _ _ _ _
    rw [readItems_nil]
    exact formOnly_error (by decide)

theorem readItems_steady (steady : fields.Steady) (index : Nat) :
    Json.Steady Closed (fields.readItems wrongLength room index) := by
  induction fields generalizing index with
  | nil => exact readListEnd_steady.passing_map () fun isClosed => isClosed
  | cons field more ih =>
    obtain ⟨isSteady, steadyMore⟩ := steady
    have close : Json.Steady Closed fun rest =>
        ((Fields.cons field more).fill wrongLength index).map fun row => (row, rest) :=
      steady_const _
    have part := readField_steady isSteady (ih steadyMore (index + 1))
    exact steady_itemTurn close part (index == 0)

/-- The fields of a record that stands as a list are read up to where its items are passed over. -/
theorem skipTurn_of_readItems (steady : fields.Steady) {index : Nat} {text rest : List Char}
    {row : Row types} (read : fields.readItems wrongLength room index text = .ok (row, rest))
    (frames : List Bracket) : skipTurn .list frames (index == 0) text = skipAfter frames rest := by
  induction fields generalizing index text with
  | nil =>
    obtain ⟨last, isRead, same⟩ := map_eq_ok.1 read
    obtain ⟨-, rfl⟩ := Prod.mk.inj same
    exact skipTurn_of_readListEnd isRead frames _
  | cons field more ih =>
    obtain ⟨isSteady, steadyMore⟩ := steady
    obtain ⟨turn, turned, isRead⟩ := bind_eq_ok.1 read
    rw [skipTurn_of_itemTurn turned frames]
    cases turn with
    | close last =>
      obtain ⟨filled, -, same⟩ := map_eq_ok.1 isRead
      obtain ⟨-, rfl⟩ := Prod.mk.inj same
      rfl
    | part start =>
      obtain ⟨⟨a, next⟩, run, behind⟩ := bind_eq_ok.1 isRead
      obtain ⟨⟨others, last⟩, readMore, same⟩ := map_eq_ok.1 behind
      obtain ⟨-, rfl⟩ := Prod.mk.inj same
      have goesOn := skipValue_of_skip ((isSteady room).passes run) (.list :: frames)
      exact goesOn.trans (ih steadyMore readMore)

end Fields

/-! ## Records -/

/-- A record is read from an object or from a list. -/
theorem Codec.exists_opening_of_record {α : Type} {types : List Type} {name : String}
    {fields : Fields types} {build : Row types → α} {parts : α → Row types} {room : Nat}
    {text rest : List Char} {a : α}
    (run : ((Codec.record name fields build parts).reader room).run text = .ok (a, rest)) :
    ∃ (bracket : Bracket) (more : List Char), skipBlanks text = bracket.opening :: more := by
  dsimp only [Codec.record] at run
  obtain ⟨c, more, front, read⟩ := Reader.exists_of_front_run run
  split at read
  · rename_i isObject
    subst isObject
    exact ⟨.object, more, front⟩
  split at read
  · rename_i isList
    subst isList
    exact ⟨.list, more, front⟩
  · cases read

/-- **A record's codec is steady if its fields' are.** -/
theorem Codec.record_steady {α : Type} {types : List Type} {name : String} {fields : Fields types}
    {build : Row types → α} {parts : α → Row types} (steady : fields.Steady) :
    (Codec.record name fields build parts).Steady := by
  intro room
  dsimp only [Codec.record]
  refine Reader.front_steady (fun c => ?_) ?_
  · refine steady_ite (fun _ => ?_) fun _ => steady_ite (fun _ => ?_) fun _ => steady_error _
    · cases room with
      | zero => exact steady_error fun _ => .tooDeep
      | succ room =>
        exact (Fields.readMembers_steady steady room true fields.blank).bind_closed fun draft =>
          steady_const_map (fields.complete draft) build
    · cases room with
      | zero => exact steady_error fun _ => .tooDeep
      | succ room =>
        exact (Fields.readItems_steady steady 0).map build fun _ isClosed => isClosed.elim
  · intro c more rest a _ read
    split at read
    · rename_i isObject
      subst isObject
      cases room with
      | zero => cases read
      | succ room =>
        obtain ⟨⟨draft, last⟩, isRead, built⟩ := bind_eq_ok.1 read
        obtain ⟨row, -, same⟩ := map_eq_ok.1 built
        obtain ⟨-, rfl⟩ := Prod.mk.inj same
        have passed := Fields.skipTurn_of_readMembers steady isRead []
        rw [skipAfter_nil] at passed
        exact (skip_opening .object more).trans passed
    split at read
    · rename_i isList
      subst isList
      cases room with
      | zero => cases read
      | succ room =>
        obtain ⟨⟨row, last⟩, isRead, same⟩ := map_eq_ok.1 read
        obtain ⟨-, rfl⟩ := Prod.mk.inj same
        have passed := Fields.skipTurn_of_readItems steady isRead []
        rw [skipAfter_nil] at passed
        exact (skip_opening .list more).trans passed
    · cases read

end WalletView.Json
