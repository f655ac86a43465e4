/-
# Proofs.Json.SteadyReader — steady readers read just one value

A reader is steady (`Reader.Steady`) if it reads steadily, looks no further than to the first
character before it starts, and stops where passing over a value stops, so that it reads just one
value.  The readers of single values are steady, and those of lists and maps are if those of their
parts are.
-/
import WalletView.Json.Value
import WalletView.Proofs.Json.Reader
import WalletView.Proofs.Json.Natural
import WalletView.Proofs.Json.Turn

set_option autoImplicit false

namespace WalletView.Json

namespace Reader

variable {α β : Type}

/-- The reader reads just one value, whatever follows. -/
structure Steady (r : Reader α) : Prop where
  settled : Json.Steady OpenEnded r.run
  looks : ∀ text, r.run text =
    match skipBlanks text with
    | [] => .error (.ended .value)
    | c :: rest => r.run (c :: rest)
  passes : ∀ {text rest : List Char} {a : α}, r.run text = .ok (a, rest) → skip text = .ok rest

theorem Steady.run_cons {r : Reader α} (steady : r.Steady) (c : Char) :
    Json.Steady OpenEnded fun rest => r.run (c :: rest) :=
  steady.settled.cons r.rest c

/-- The whole of a text is read if nothing but blanks is left of it. -/
theorem readAll_eq_ok_iff {r : Reader α} {text : List Char} {a : α} :
    r.readAll text = .ok a ↔ ∃ rest, r.run text = .ok (a, rest) ∧ Blanks rest := by
  rw [readAll, bind_eq_ok]
  constructor
  · rintro ⟨⟨a, rest⟩, run, isAll⟩
    dsimp only at isAll
    split at isAll
    · rename_i isEmpty
      cases isAll
      exact ⟨rest, run, skipBlanks_eq_nil_iff.1 (List.isEmpty_iff.1 isEmpty)⟩
    · cases isAll
  · rintro ⟨rest, run, isBlanks⟩
    refine ⟨(a, rest), run, ?_⟩
    simp [skipBlanks_eq_nil_iff.2 isBlanks]

theorem readAll_map_iff {r : Reader α} {f : α → β} {text : List Char} {b : β} :
    (r.map f).readAll text = .ok b ↔ ∃ a, r.readAll text = .ok a ∧ f a = b := by
  simp only [readAll_eq_ok_iff, map_run_eq_ok]
  constructor
  · rintro ⟨rest, ⟨a, run, same⟩, isBlanks⟩
    exact ⟨a, ⟨rest, run, isBlanks⟩, same⟩
  · rintro ⟨a, ⟨rest, run, isBlanks⟩, same⟩
    exact ⟨rest, ⟨a, run, same⟩, isBlanks⟩

/-! ## By the first character -/

theorem skip_blanks {text rest : List Char} {c : Char} (front : skipBlanks text = c :: rest) :
    skip text = skip (c :: rest) := by
  obtain ⟨blanks, rfl, isBlanks, -⟩ := skipBlanks_eq_cons_iff.1 front
  exact skipValue_blanks isBlanks [] _

theorem front_steady {read : Char → List Char → Outcome α}
    {suffix : ∀ {c : Char} {text rest : List Char} {a : α},
      read c text = .ok (a, rest) → rest <:+ text}
    (settled : ∀ c, Json.Steady OpenEnded (read c))
    (passes : ∀ {c : Char} {more rest : List Char} {a : α}, isBlank c = false →
      read c more = .ok (a, rest) → skip (c :: more) = .ok rest) :
    (front read @suffix).Steady where
  settled := by
    have atEnd : (ReadError.ended .value).category ≠ .data := nofun
    exact steady_ahead atEnd read (fun _ => rfl) settled
  looks text := by
    cases blanks : skipBlanks text with
    | nil => simp only [front, blanks]
    | cons c rest =>
      obtain ⟨_, -, -, notBlank⟩ := skipBlanks_eq_cons_iff.1 blanks
      exact (by simp only [front, blanks] : _ = read c rest).trans (front_run notBlank).symm
  passes {text rest a} run := by
    obtain ⟨c, more, blanks, isRead⟩ := exists_of_front_run run
    obtain ⟨_, -, -, notBlank⟩ := skipBlanks_eq_cons_iff.1 blanks
    rw [skip_blanks blanks]
    exact passes notBlank isRead

theorem map_steady {r : Reader α} (steady : r.Steady) (f : α → β) : (r.map f).Steady where
  settled := steady.settled.map f fun _ _ => trivial
  looks text := by
    simp only [map]
    rw [steady.looks text]
    cases skipBlanks text <;> rfl
  passes run := by
    obtain ⟨a, isRead, -⟩ := map_run_eq_ok.1 run
    exact steady.passes isRead

end Reader

/-! ## Single values -/

section Scalars

variable {more rest : List Char}

theorem skip_scalar {c : Char} (starts : StartsScalar c) (passed : passScalar (c :: more) = .ok rest) :
    skip (c :: more) = .ok rest := by
  rw [skip, skipValue_eq, skipBlanks_cons starts.notBlank]
  simp only [if_neg starts.notBracket.1, if_neg starts.notBracket.2, passed, Except.bind,
    skipAfter_nil]

theorem skip_string {s : String} (read : readString more = .ok (s, rest)) :
    skip ('"' :: more) = .ok rest :=
  skip_scalar ⟨by decide, by decide, by decide⟩ (passString_of_readString read)

theorem skip_null (read : readWord ['u', 'l', 'l'] more = .ok rest) : skip ('n' :: more) = .ok rest :=
  skip_scalar ⟨by decide, by decide, by decide⟩ read

theorem skip_true (read : readWord ['r', 'u', 'e'] more = .ok rest) : skip ('t' :: more) = .ok rest :=
  skip_scalar ⟨by decide, by decide, by decide⟩ read

theorem skip_false (read : readWord ['a', 'l', 's', 'e'] more = .ok rest) :
    skip ('f' :: more) = .ok rest :=
  skip_scalar ⟨by decide, by decide, by decide⟩ read

theorem skip_number {c : Char} {value : Number}
    (read : readNumber (c :: more) = .ok (value, rest)) : skip (c :: more) = .ok rest := by
  have passed := passNumber_of_readNumber read
  obtain ⟨value, isText, isScalar, ends⟩ := exists_of_passNumber passed
  rw [skip_eq_ok_iff]
  exact ⟨[], value, isText, .nil, .scalar isScalar, ends⟩

end Scalars

namespace Reader

variable {α : Type}

theorem string_steady : string.Steady :=
  front_steady
    (fun _ => steady_ite (fun _ => readString_steady.openEnded) fun _ => steady_error _)
    (by
      intro c more rest s _ read
      split at read
      · rename_i isQuote
        exact isQuote ▸ skip_string read
      · cases read)

theorem boolean_steady : boolean.Steady :=
  front_steady
    (fun _ =>
      steady_ite (fun _ => (readWord_steady _).passing_map true fun _ => trivial) fun _ =>
        steady_ite (fun _ => (readWord_steady _).passing_map false fun _ => trivial) fun _ =>
          steady_error _)
    (by
      intro c more rest b _ read
      split at read
      · rename_i isT
        obtain ⟨last, isRead, same⟩ := map_eq_ok.1 read
        obtain ⟨-, rfl⟩ := Prod.mk.inj same
        exact isT ▸ skip_true isRead
      split at read
      · rename_i isF
        obtain ⟨last, isRead, same⟩ := map_eq_ok.1 read
        obtain ⟨-, rfl⟩ := Prod.mk.inj same
        exact isF ▸ skip_false isRead
      · cases read)

/-- A word is read steadily: a number that is cut off within a word's digits is a word itself. -/
theorem readNumber_wordOf_steady :
    Json.Steady OpenEnded fun text =>
      (readNumber text).bind fun (n, rest) => (wordOf n).map fun w => (w, rest) := by
  refine readNumber_steady.bind (fun n => steady_const (wordOf n)) (fun _ _ _ _ _ => trivial) ?_
  intro text more rest last n n' w _ here extended isWord
  obtain ⟨w', isWord, -⟩ := map_eq_ok.1 isWord
  exact (wordOf_formOnly_of_extended here extended isWord).map _

theorem word_steady : word.Steady :=
  front_steady
    (fun c =>
      steady_ite
        (fun _ => readNumber_wordOf_steady.cons
          (by
            intro text rest w read
            obtain ⟨⟨n, last⟩, isRead, isWord⟩ := bind_eq_ok.1 read
            obtain ⟨w', -, same⟩ := map_eq_ok.1 isWord
            obtain ⟨-, rfl⟩ := Prod.mk.inj same
            exact readNumber_rest isRead) c)
        fun _ => steady_error _)
    (by
      intro c more rest w _ read
      split at read
      · obtain ⟨⟨n, last⟩, isRead, isWord⟩ := bind_eq_ok.1 read
        obtain ⟨w', -, same⟩ := map_eq_ok.1 isWord
        obtain ⟨-, rfl⟩ := Prod.mk.inj same
        exact skip_number isRead
      · cases read)

/-- What may be absent, read from its first character. -/
def optionAhead (r : Reader α) (c : Char) (rest : List Char) : Outcome (Option α) :=
  if c = 'n' then (readWord ['u', 'l', 'l'] rest).map fun rest => (none, rest)
  else (r.run (c :: rest)).map fun (a, rest) => (some a, rest)

theorem option_steady {r : Reader α} (steady : r.Steady) : (option r).Steady where
  settled := by
    have atEnd : (ReadError.ended .value).category ≠ .data := nofun
    refine steady_ahead atEnd (optionAhead r) ?_ fun c => ?_
    · intro text
      simp only [option]
      rw [steady.looks text]
      cases skipBlanks text <;> rfl
    · exact steady_ite (fun _ => (readWord_steady _).passing_map none fun _ => trivial) fun _ =>
        (steady.run_cons c).map some fun _ _ => trivial
  looks text := by
    simp only [option]
    rw [steady.looks text]
    cases front : skipBlanks text with
    | nil => rfl
    | cons c rest =>
      obtain ⟨_, -, -, notBlank⟩ := skipBlanks_eq_cons_iff.1 front
      simp only [skipBlanks_cons notBlank]
  passes {text rest value} run := by
    rcases cases_of_option_run run with ⟨rfl, isN⟩ | ⟨a, rfl, isRead, -⟩
    · obtain ⟨more, front⟩ := List.head?_eq_some_iff.1 isN
      simp only [option, front, if_true] at run
      obtain ⟨last, isRead, same⟩ := map_eq_ok.1 run
      obtain ⟨-, rfl⟩ := Prod.mk.inj same
      rw [skip_blanks front]
      exact skip_null isRead
    · exact steady.passes isRead

end Reader

/-! ## Lists and maps -/

section Parts

variable {α : Type} {r : Reader α} {first : Bool} {text rest : List Char}

/-- One step through the items of a list. -/
def itemStep (r : Reader α) (first : Bool) (text : List Char) : Outcome (Round Bool (List α)) :=
  (itemTurn first text).bind <|
    Turn.elim (fun rest => .ok (.stop [], rest)) fun start =>
      (r.run start).map fun (a, rest) => (.go false (a :: ·), rest)

theorem itemStep_part_steady (steady : r.Steady) (c : Char) :
    Steady Round.GoesOn fun rest =>
      (r.run (c :: rest)).map fun (a, rest) => ((.go false (a :: ·) : Round Bool (List α)), rest) :=
  (steady.run_cons c).map (fun a => Round.go false (a :: ·)) fun _ _ => trivial

theorem readItems_steady (steady : r.Steady) (first : Bool) :
    Steady Closed (readItems r first) := by
  refine steady_loop (itemStep r) (readItems r) ?_ ?_ ?_ ?_ first
  · intro first text
    rw [readItems_eq, itemStep]
    cases itemTurn first text with
    | error e => rfl
    | ok turn =>
      cases turn with
      | close rest => rfl
      | part start => cases h : r.run start <;> simp [Except.bind, Turn.elim, h, Except.map, Round.continue]
  · have close : Steady Round.GoesOn fun rest => .ok ((.stop [] : Round Bool (List α)), rest) :=
      steady_const (.ok (Round.stop []))
    exact steady_itemTurn close (itemStep_part_steady steady)
  · intro first text rest round step
    obtain ⟨turn, turned, isRead⟩ := bind_eq_ok.1 step
    cases turn with
    | close last =>
      cases isRead
      exact rest_of_itemTurn turned
    | part start =>
      obtain ⟨⟨a, last⟩, run, same⟩ := map_eq_ok.1 isRead
      obtain ⟨-, rfl⟩ := Prod.mk.inj same
      exact .of_suffix (itemTurn_suffix turned) (r.rest run)
  · intro first
    exact ⟨_, rfl, by decide⟩

/-- The items of a list are read up to where they are passed over. -/
theorem skipTurn_of_readItems (steady : r.Steady) {items : List α}
    (read : readItems r first text = .ok (items, rest)) (frames : List Bracket) :
    skipTurn .list frames first text = skipAfter frames rest := by
  fun_induction readItems r first text generalizing items with
  | case1 => cases read
  | case2 first text last turned =>
    cases read
    exact skipTurn_of_itemTurn turned frames
  | case3 => cases read
  | case4 first text start turned a next run _ ih =>
    obtain ⟨⟨more, last⟩, readMore, same⟩ := map_eq_ok.1 read
    obtain ⟨-, rfl⟩ := Prod.mk.inj same
    have goesOn := skipValue_of_skip (steady.passes run) (.list :: frames)
    rw [skipTurn_of_itemTurn turned frames]
    exact goesOn.trans (ih readMore)

theorem readMember_steady (steady : r.Steady) : Steady OpenEnded (readMember r) :=
  readString_steady.bind_closed fun key =>
    readColon_steady.passing_bind (steady.settled.map (fun a => (key, a)) fun _ _ => trivial)

/-- One step through the members of an object. -/
def memberStep (r : Reader α) (first : Bool) (text : List Char) :
    Outcome (Round Bool (List (String × α))) :=
  (keyTurn first text).bind <|
    Turn.elim (fun rest => .ok (.stop [], rest)) fun start =>
      (readMember r start).map fun (member, rest) => (.go false (member :: ·), rest)

theorem memberStep_part_steady (steady : r.Steady) :
    Steady Round.GoesOn fun start => (readMember r start).map fun (member, rest) =>
      ((.go false (member :: ·) : Round Bool (List (String × α))), rest) :=
  (readMember_steady steady).map (fun member => Round.go false (member :: ·)) fun _ _ => trivial

theorem readMembers_steady (steady : r.Steady) (first : Bool) :
    Steady Closed (readMembers r first) := by
  refine steady_loop (memberStep r) (readMembers r) ?_ ?_ ?_ ?_ first
  · intro first text
    rw [readMembers_eq, memberStep]
    cases keyTurn first text with
    | error e => rfl
    | ok turn =>
      cases turn with
      | close rest => rfl
      | part start =>
        cases isRead : readMember r start <;>
          simp [Except.bind, Turn.elim, isRead, Except.map, Round.continue]
  · have close : Steady Round.GoesOn fun rest =>
        .ok ((.stop [] : Round Bool (List (String × α))), rest) :=
      steady_const (.ok (Round.stop []))
    exact steady_keyTurn close (memberStep_part_steady steady)
  · intro first text rest round step
    obtain ⟨turn, turned, isRead⟩ := bind_eq_ok.1 step
    cases turn with
    | close last =>
      cases isRead
      exact rest_of_keyTurn turned
    | part start =>
      obtain ⟨⟨member, last⟩, isMember, same⟩ := map_eq_ok.1 isRead
      obtain ⟨-, rfl⟩ := Prod.mk.inj same
      exact .of_suffix (keyTurn_suffix turned) (readMember_rest isMember)
  · intro first
    exact ⟨_, rfl, by decide⟩

/-- A key that is read is passed over with its colon. -/
theorem passString_bind_readColon {start afterKey afterColon : List Char} {key : String}
    (readKey : readString start = .ok (key, afterKey)) (colon : readColon afterKey = .ok afterColon) :
    (passString start).bind readColon = .ok afterColon := by
  rw [passString_of_readString readKey]
  exact colon

/-- The members of an object are read up to where they are passed over. -/
theorem skipTurn_of_readMembers (steady : r.Steady) {members : List (String × α)}
    (read : readMembers r first text = .ok (members, rest)) (frames : List Bracket) :
    skipTurn .object frames first text = skipAfter frames rest := by
  fun_induction readMembers r first text generalizing members with
  | case1 => cases read
  | case2 first text last turned =>
    cases read
    exact skipTurn_of_keyTurn turned frames
  | case3 => cases read
  | case4 first text start turned member next isMember _ ih =>
    obtain ⟨⟨more, last⟩, readMore, same⟩ := map_eq_ok.1 read
    obtain ⟨-, rfl⟩ := Prod.mk.inj same
    obtain ⟨⟨key, afterKey⟩, readKey, behindKey⟩ := bind_eq_ok.1 isMember
    obtain ⟨afterColon, colon, behindColon⟩ := bind_eq_ok.1 behindKey
    obtain ⟨⟨a, behind⟩, run, same⟩ := map_eq_ok.1 behindColon
    obtain ⟨-, rfl⟩ := Prod.mk.inj same
    have goesOn := skipValue_of_skip (steady.passes run) (.object :: frames)
    rw [skipTurn_of_keyTurn turned frames]
    simp only [passString_bind_readColon readKey colon]
    exact goesOn.trans (ih readMore)

theorem skip_opening (bracket : Bracket) (text : List Char) :
    skip (bracket.opening :: text) = skipTurn bracket [] true text := by
  rw [skip, skipValue_opening]
  rfl

/-- A list whose items are read is passed over. -/
theorem skip_of_readItems (steady : r.Steady) {items : List α}
    (read : readItems r true text = .ok (items, rest)) : skip ('[' :: text) = .ok rest := by
  have passed := skipTurn_of_readItems steady read []
  rw [skipAfter_nil] at passed
  exact (skip_opening .list text).trans passed

/-- An object whose members are read is passed over. -/
theorem skip_of_readMembers (steady : r.Steady) {members : List (String × α)}
    (read : readMembers r true text = .ok (members, rest)) : skip ('{' :: text) = .ok rest := by
  have passed := skipTurn_of_readMembers steady read []
  rw [skipAfter_nil] at passed
  exact (skip_opening .object text).trans passed

end Parts

namespace Reader

variable {α : Type} {inner : Nat → Reader α}

theorem list_steady (steady : ∀ room, (inner room).Steady) (room : Nat) :
    (list inner room).Steady := by
  refine front_steady (fun c => ?_) ?_
  · refine steady_ite (fun _ => ?_) fun _ => steady_error _
    cases room with
    | zero => exact steady_error fun _ => .tooDeep
    | succ room => exact (readItems_steady (steady room) true).openEnded
  · intro c more rest items _ read
    split at read
    · rename_i isList
      cases room with
      | zero => cases read
      | succ room => exact isList ▸ skip_of_readItems (steady room) read
    · cases read

theorem members_steady (expected : Expected) (steady : ∀ room, (inner room).Steady) (room : Nat) :
    (members expected inner room).Steady := by
  refine front_steady (fun c => ?_) ?_
  · refine steady_ite (fun _ => ?_) fun _ => steady_error _
    cases room with
    | zero => exact steady_error fun _ => .tooDeep
    | succ room => exact (readMembers_steady (steady room) true).openEnded
  · intro c more rest entries _ read
    split at read
    · rename_i isObject
      cases room with
      | zero => cases read
      | succ room => exact isObject ▸ skip_of_readMembers (steady room) read
    · cases read

end Reader

/-! ## Values of any shape -/

section FreeForm

variable {list object : List Char → Outcome Json}

theorem readFreeForm_steady (steadyList : Steady OpenEnded list)
    (steadyObject : Steady OpenEnded object) (c : Char) :
    Steady OpenEnded (readFreeForm list object c) :=
  steady_ite (fun _ => (readWord_steady _).passing_map Json.null fun _ => trivial) fun _ =>
    steady_ite (fun _ => (readWord_steady _).passing_map (Json.bool true) fun _ => trivial) fun _ =>
      steady_ite (fun _ => (readWord_steady _).passing_map (Json.bool false) fun _ => trivial) fun _ =>
        steady_ite (fun _ => (readString_steady.map Json.string fun _ _ => trivial)) fun _ =>
          steady_ite (fun _ => steadyList) fun _ =>
            steady_ite (fun _ => steadyObject) fun _ =>
              steady_ite
                (fun _ =>
                  (readNumber_steady.cons readNumber_rest c).map Json.number fun _ _ => trivial)
                fun _ => steady_error fun _ => .expectedValue

theorem skip_of_readFreeForm {c : Char} {more rest : List Char} {value : Json}
    (passList : ∀ {value}, list more = .ok (value, rest) → skip ('[' :: more) = .ok rest)
    (passObject : ∀ {value}, object more = .ok (value, rest) → skip ('{' :: more) = .ok rest)
    (read : readFreeForm list object c more = .ok (value, rest)) : skip (c :: more) = .ok rest := by
  unfold readFreeForm at read
  split at read
  · rename_i isN
    obtain ⟨last, isRead, same⟩ := map_eq_ok.1 read
    obtain ⟨-, rfl⟩ := Prod.mk.inj same
    exact isN ▸ skip_null isRead
  split at read
  · rename_i isT
    obtain ⟨last, isRead, same⟩ := map_eq_ok.1 read
    obtain ⟨-, rfl⟩ := Prod.mk.inj same
    exact isT ▸ skip_true isRead
  split at read
  · rename_i isF
    obtain ⟨last, isRead, same⟩ := map_eq_ok.1 read
    obtain ⟨-, rfl⟩ := Prod.mk.inj same
    exact isF ▸ skip_false isRead
  split at read
  · rename_i isQuote
    obtain ⟨⟨s, last⟩, isRead, same⟩ := map_eq_ok.1 read
    obtain ⟨-, rfl⟩ := Prod.mk.inj same
    exact isQuote ▸ skip_string isRead
  split at read
  · rename_i isList
    exact isList ▸ passList read
  split at read
  · rename_i isObject
    exact isObject ▸ passObject read
  split at read
  · obtain ⟨⟨n, last⟩, isRead, same⟩ := map_eq_ok.1 read
    obtain ⟨-, rfl⟩ := Prod.mk.inj same
    exact skip_number isRead
  · cases read

theorem freeForm_steady (room : Nat) : (freeForm room).Steady := by
  induction room with
  | zero =>
    refine Reader.front_steady (fun c => ?_) fun _ read => ?_
    · exact readFreeForm_steady (steady_error _) (steady_error _) c
    · refine skip_of_readFreeForm ?_ ?_ read
      · intro value refused
        cases refused
      · intro value refused
        cases refused
  | succ room ih =>
    refine Reader.front_steady (fun c => ?_) fun _ read => ?_
    · exact readFreeForm_steady
        ((readItems_steady ih true).map .array fun _ isClosed => isClosed.elim)
        ((readMembers_steady ih true).map ofMembers fun _ isClosed => isClosed.elim) c
    · refine skip_of_readFreeForm ?_ ?_ read
      · intro value isRead
        obtain ⟨⟨items, last⟩, readItems, same⟩ := map_eq_ok.1 isRead
        obtain ⟨-, rfl⟩ := Prod.mk.inj same
        exact skip_of_readItems ih readItems
      · intro value isRead
        obtain ⟨⟨members, last⟩, readMembers, same⟩ := map_eq_ok.1 isRead
        obtain ⟨-, rfl⟩ := Prod.mk.inj same
        exact skip_of_readMembers ih readMembers

end FreeForm

end WalletView.Json
