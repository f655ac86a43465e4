/-
# Proofs.Json.Reader — readers that read back what was written

A reader *restores* a value from how it is written, if it reads the value from just that text and
stops behind it.  Single values are restored always; a list or a map is, as soon as all that it
holds are.  What is held by a list or a map that was read was itself read (`Reads`), one bracket
further in.

Numbers are restored if they are integers, so what is written has to be *whole*: no double stands in
it anywhere.
-/
import WalletView.Json.Reader
import WalletView.Proofs.Json.Text
import WalletView.Proofs.Json.Numeral

set_option autoImplicit false

namespace WalletView.Json

/-! ## Whole values -/

mutual

/-- Whether no number in the value is a double. -/
def isWhole : Json → Bool
  | .number (.double _) => false
  | .array items => areWhole items
  | .object members => areWholeMembers members
  | _ => true

def areWhole : List Json → Bool
  | [] => true
  | item :: more => item.isWhole && areWhole more

def areWholeMembers : List (String × Json) → Bool
  | [] => true
  | (_, value) :: more => value.isWhole && areWholeMembers more

end

theorem areWhole_iff {items : List Json} :
    areWhole items = true ↔ ∀ item ∈ items, item.isWhole = true := by
  induction items with
  | nil => simp [areWhole]
  | cons item more ih => simp [areWhole, ih]

theorem areWholeMembers_iff {members : List (String × Json)} :
    areWholeMembers members = true ↔ ∀ member ∈ members, member.2.isWhole = true := by
  induction members with
  | nil => simp [areWholeMembers]
  | cons member more ih => simp [areWholeMembers, ih]

theorem isWhole_array {items : List Json} :
    (Json.array items).isWhole = true ↔ ∀ item ∈ items, item.isWhole = true :=
  areWhole_iff

theorem isWhole_object {members : List (String × Json)} :
    (Json.object members).isWhole = true ↔ ∀ member ∈ members, member.2.isWhole = true :=
  areWholeMembers_iff

@[simp] theorem ofOption_isWhole {α : Type} {write : α → Json} {value : Option α} :
    (ofOption write value).isWhole = true ↔ ∀ a ∈ value, (write a).isWhole = true := by
  cases value with
  | none => exact ⟨fun _ => nofun, fun _ => rfl⟩
  | some a => simp [ofOption]

theorem isBlank_of_isDigit {c : Char} (isDigit : c.isDigit = true) : isBlank c = false := by
  cases blank : isBlank c with
  | false => rfl
  | true =>
    simp only [isBlank, Bool.or_eq_true, beq_iff_eq] at blank
    rcases blank with ((rfl | rfl) | rfl) | rfl <;> exact absurd isDigit (by decide)

theorem integerText_eq_cons (n : Int) :
    ∃ c more, Number.integerText n = c :: more ∧ startsNumber c = true := by
  unfold Number.integerText
  split
  · exact ⟨_, _, rfl, rfl⟩
  · obtain ⟨c, more, front, isDigit⟩ := toDigits_eq_cons n.natAbs
    exact ⟨c, more, front, by simp [startsNumber, isDigit]⟩

/-- The kinds of values. -/
inductive Kind where
  | null
  | bool
  | number
  | string
  | array
  | object

def kind : Json → Kind
  | .null => .null
  | .bool _ => .bool
  | .number _ => .number
  | .string _ => .string
  | .array _ => .array
  | .object _ => .object

/-- The kind of value that starts with a character. -/
def kindOf (c : Char) : Kind :=
  if c = 'n' then .null
  else if c = 't' ∨ c = 'f' then .bool
  else if c = '"' then .string
  else if c = '[' then .array
  else if c = '{' then .object
  else .number

theorem kindOf_of_startsNumber {c : Char} (starts : startsNumber c = true) :
    kindOf c = .number := by
  have other {d : Char} (notNumber : startsNumber d = false) : c ≠ d :=
    ne_of_startsNumber starts notNumber
  have notBool : ¬(c = 't' ∨ c = 'f') := not_or.2 ⟨other rfl, other rfl⟩
  simp only [kindOf, if_neg (other (d := 'n') rfl), if_neg notBool, if_neg (other (d := '"') rfl),
    if_neg (other (d := '[') rfl), if_neg (other (d := '{') rfl)]

/-- A character that can be the first of a value is no blank and no bracket's end. -/
structure StartsValue (c : Char) : Prop where
  notBlank : isBlank c = false
  notListEnd : c ≠ ']'

theorem startsValue_of_startsNumber {c : Char} (starts : startsNumber c = true) :
    StartsValue c := by
  rcases Bool.or_eq_true_iff.1 starts with minus | isDigit
  · obtain rfl := beq_iff_eq.1 minus
    exact ⟨by decide, by decide⟩
  · refine ⟨isBlank_of_isDigit isDigit, ?_⟩
    rintro rfl
    exact absurd isDigit (by decide)

/-- The first character of a whole value tells its kind. -/
theorem print_eq_cons {j : Json} (whole : j.isWhole = true) :
    ∃ c more, j.print = c :: more ∧ StartsValue c ∧ kindOf c = j.kind := by
  cases j with
  | null => exact ⟨_, _, rfl, ⟨by decide, by decide⟩, rfl⟩
  | bool b => cases b <;> exact ⟨_, _, rfl, ⟨by decide, by decide⟩, rfl⟩
  | number n =>
    cases n with
    | double x => cases whole
    | integer n =>
      obtain ⟨c, more, front, starts⟩ := integerText_eq_cons n
      exact ⟨c, more, front, startsValue_of_startsNumber starts, kindOf_of_startsNumber starts⟩
  | string s => exact ⟨_, _, rfl, ⟨by decide, by decide⟩, rfl⟩
  | array items => exact ⟨_, _, rfl, ⟨by decide, by decide⟩, rfl⟩
  | object members => exact ⟨_, _, rfl, ⟨by decide, by decide⟩, rfl⟩

theorem eq_null_of_kind {j : Json} (isNull : j.kind = .null) : j = .null := by
  cases j with
  | null => rfl
  | bool | number | string | array | object => cases isNull

/-! ## Single values -/

namespace Reader

variable {α β : Type}

/-- The reader reads the value back from its text. -/
structure Restores (r : Reader α) (j : Json) (a : α) : Prop where
  whole : j.isWhole = true
  run : ∀ text, Delimited text → r.run (j.print ++ text) = .ok (a, text)

/-- The reader reads the value from some text. -/
def Reads (r : Reader α) (a : α) : Prop :=
  ∃ text rest, r.run text = .ok (a, rest)

theorem front_run {read : Char → List Char → Outcome α}
    {suffix : ∀ {c : Char} {text rest : List Char} {a : α},
      read c text = .ok (a, rest) → rest <:+ text} {c : Char} {text : List Char}
    (notBlank : isBlank c = false) : (front read @suffix).run (c :: text) = read c text := by
  simp only [front, skipBlanks_cons notBlank]

/-- What a reader by the first character reads starts with a character. -/
theorem exists_of_front_run {read : Char → List Char → Outcome α}
    {suffix : ∀ {c : Char} {text rest : List Char} {a : α},
      read c text = .ok (a, rest) → rest <:+ text} {text rest : List Char} {a : α}
    (run : (front read @suffix).run text = .ok (a, rest)) :
    ∃ c more, skipBlanks text = c :: more ∧ read c more = .ok (a, rest) := by
  simp only [front] at run
  split at run
  · cases run
  · rename_i c more blanks
    exact ⟨c, more, blanks, run⟩

theorem map_run_eq_ok {f : α → β} {r : Reader α} {text rest : List Char} {b : β} :
    (r.map f).run text = .ok (b, rest) ↔ ∃ a, r.run text = .ok (a, rest) ∧ f a = b := by
  simp only [map, map_eq_ok, Prod.exists, Prod.mk.injEq]
  constructor
  · rintro ⟨a, _, run, rfl, rfl⟩
    exact ⟨a, run, rfl⟩
  · rintro ⟨a, run, rfl⟩
    exact ⟨a, rest, run, rfl, rfl⟩

theorem ext_run {r r' : Reader α} (same : ∀ text, r.run text = r'.run text) : r = r' := by
  cases r
  cases r'
  congr 1
  exact funext same

theorem map_id (r : Reader α) : r.map id = r := by
  refine ext_run fun text => ?_
  simp only [map]
  cases r.run text <;> rfl

theorem map_map {γ : Type} (f : α → β) (g : β → γ) (r : Reader α) :
    (r.map f).map g = r.map (g ∘ f) := by
  refine ext_run fun text => ?_
  simp only [map]
  cases r.run text <;> rfl

theorem Restores.map {r : Reader α} {j : Json} {a : α} (restores : r.Restores j a) (f : α → β) :
    (r.map f).Restores j (f a) where
  whole := restores.whole
  run text delimited := map_run_eq_ok.2 ⟨a, restores.run text delimited, rfl⟩

theorem string_restores (s : String) : Reader.string.Restores (.string s) s where
  whole := rfl
  run text _ := by
    rw [print, quote_append]
    exact (front_run rfl).trans (readString_escape s text)

theorem boolean_restores (b : Bool) : Reader.boolean.Restores (.bool b) b where
  whole := rfl
  run text _ := by
    cases b with
    | true =>
      refine (front_run rfl).trans ?_
      simp [readWord, Except.map]
    | false =>
      refine (front_run rfl).trans ?_
      simp [readWord, Except.map]

theorem word_restores (w : UInt64) : Reader.word.Restores (.natural w.toNat) w where
  whole := rfl
  run text delimited := by
    have fits : FitsWord w.toNat := by
      have := w.toNat_lt
      constructor <;> omega
    have read := readNumber_integerText fits delimited
    obtain ⟨c, more, front, starts⟩ := integerText_eq_cons w.toNat
    have isText : (Json.natural w.toNat).print = c :: more := front
    rw [isText, List.cons_append]
    rw [front, List.cons_append] at read
    refine (front_run (startsValue_of_startsNumber starts).notBlank).trans ?_
    have notNegative : ¬ (w.toNat : Int) < 0 := by omega
    simp [starts, read, Except.bind, wordOf, notNegative, Except.map]

theorem option_restores_none (r : Reader α) : (option r).Restores .null none where
  whole := rfl
  run text _ := by
    rw [print]
    have front : isBlank 'n' = false := rfl
    simp only [option, nullText, List.cons_append, skipBlanks_cons front]
    exact congrArg (Except.map _) (readWord_append ['u', 'l', 'l'] text)

theorem option_restores_some {r : Reader α} {j : Json} {a : α} (restores : r.Restores j a)
    (notNull : j ≠ .null) : (option r).Restores j (some a) where
  whole := restores.whole
  run text delimited := by
    obtain ⟨c, more, front, starts, kind⟩ := print_eq_cons restores.whole
    have notN : c ≠ 'n' := by
      rintro rfl
      exact notNull (eq_null_of_kind kind.symm)
    have run := restores.run text delimited
    rw [front, List.cons_append] at run ⊢
    simp only [option, skipBlanks_cons starts.notBlank, if_neg notN, run]
    rfl

/-- What may be absent was read as absent from `null` alone. -/
theorem cases_of_option_run {r : Reader α} {text rest : List Char} {value : Option α}
    (run : (option r).run text = .ok (value, rest)) :
    value = none ∧ (skipBlanks text).head? = some 'n' ∨
      ∃ a, value = some a ∧ r.run text = .ok (a, rest) ∧ (skipBlanks text).head? ≠ some 'n' := by
  have present (run : (r.map some).run text = .ok (value, rest))
      (notN : (skipBlanks text).head? ≠ some 'n') :
      ∃ a, value = some a ∧ r.run text = .ok (a, rest) ∧ (skipBlanks text).head? ≠ some 'n' := by
    obtain ⟨a, read, rfl⟩ := map_run_eq_ok.1 run
    exact ⟨a, rfl, read, notN⟩
  simp only [option] at run
  split at run
  · rename_i blanks
    exact .inr (present run (by simp [blanks]))
  · rename_i c more blanks
    split at run
    · rename_i isN
      obtain ⟨last, -, same⟩ := map_eq_ok.1 run
      exact .inl ⟨(Prod.mk.inj same).1.symm, by rw [blanks, isN]; rfl⟩
    · rename_i notN
      exact .inr (present run (by simpa [blanks] using notN))

end Reader

/-! ## Lists and maps -/

section Parts

variable {α : Type} {r : Reader α} {encode : α → Json}

/-- What stands in front of an item or a member: a comma, unless it is the first. -/
def separator (first : Bool) : List Char :=
  if first then [] else [',']

/-- How the items of a list are written behind its bracket, or behind another item. -/
def printItemTurn (first : Bool) (items : List Json) : List Char :=
  if first then printItems items else printMoreItems items

theorem printItemTurn_cons (first : Bool) (item : Json) (more : List Json) (text : List Char) :
    printItemTurn first (item :: more) ++ text =
      separator first ++ (item.print ++ (printItemTurn false more ++ text)) := by
  cases first <;> simp [printItemTurn, printItems, printMoreItems, separator]

theorem itemTurn_separator {c : Char} (starts : StartsValue c) (first : Bool) (text : List Char) :
    itemTurn first (separator first ++ c :: text) = .ok (.part (c :: text)) := by
  cases first with
  | true => simp [separator, itemTurn, skipBlanks_cons starts.notBlank, starts.notListEnd]
  | false =>
    have comma : skipBlanks (',' :: c :: text) = ',' :: c :: text := rfl
    simp [separator, itemTurn, comma, skipBlanks_cons starts.notBlank, starts.notListEnd]

theorem delimited_printMoreItems (items : List Json) (text : List Char) :
    Delimited (printMoreItems items ++ text) := by
  cases items with
  | nil => exact delimited_cons (.inr (.inl rfl))
  | cons item more => exact delimited_cons (.inl rfl)

theorem delimited_printMoreMembers (members : List (String × Json)) (text : List Char) :
    Delimited (printMoreMembers members ++ text) := by
  cases members with
  | nil => exact delimited_cons (.inr (.inr rfl))
  | cons member more => exact delimited_cons (.inl rfl)

/-- **The items of a list are read back from how they are written.** -/
theorem readItems_printItemTurn {items : List α}
    (restores : ∀ a ∈ items, r.Restores (encode a) a) (first : Bool) (text : List Char) :
    readItems r first (printItemTurn first (items.map encode) ++ text) = .ok (items, text) := by
  induction items generalizing first with
  | nil => rw [readItems_eq]; cases first <;> rfl
  | cons a more ih =>
    obtain ⟨isFirst, others⟩ := List.forall_mem_cons.1 restores
    have run := isFirst.run _ (delimited_printMoreItems (more.map encode) text)
    obtain ⟨c, rest, front, starts, -⟩ := print_eq_cons isFirst.whole
    rw [front, List.cons_append] at run
    rw [List.map_cons, printItemTurn_cons, readItems_eq, front, List.cons_append,
      itemTurn_separator starts]
    exact bind_eq_ok.2 ⟨_, rfl, bind_eq_ok.2 ⟨_, run, map_eq_ok.2 ⟨_, ih others false, rfl⟩⟩⟩

theorem readColon_colon (text : List Char) : readColon (':' :: text) = .ok text :=
  rfl

/-- A member is read back from behind the opening quote of its key. -/
theorem readMember_print (key : String) {a : α} (restores : r.Restores (encode a) a)
    {text : List Char} (delimited : Delimited text) :
    readMember r (key.toList.flatMap escape ++ '"' :: ':' :: ((encode a).print ++ text)) =
      .ok ((key, a), text) := by
  rw [readMember, readString_escape]
  simp only [Except.bind, readColon_colon, restores.run text delimited]
  rfl

/-- How the members of an object are written behind its brace, or behind another member. -/
def printMemberTurn (first : Bool) (members : List (String × Json)) : List Char :=
  if first then printMembers members else printMoreMembers members

theorem printMemberTurn_cons (first : Bool) (member : String × Json)
    (more : List (String × Json)) (text : List Char) :
    printMemberTurn first (member :: more) ++ text =
      separator first ++
        (quote member.1 ++ ':' :: (member.2.print ++ (printMemberTurn false more ++ text))) := by
  cases first <;> simp [printMemberTurn, printMembers, printMoreMembers, separator]

theorem keyTurn_separator (first : Bool) (key : String) (text : List Char) :
    keyTurn first (separator first ++ (quote key ++ text)) =
      .ok (.part (key.toList.flatMap escape ++ '"' :: text)) := by
  rw [quote_append]
  cases first <;> rfl

/-- **The members of an object are read back from how they are written.** -/
theorem readMembers_printMemberTurn {entries : List (String × α)}
    (restores : ∀ entry ∈ entries, r.Restores (encode entry.2) entry.2) (first : Bool)
    (text : List Char) :
    readMembers r first
      (printMemberTurn first (entries.map fun entry => (entry.1, encode entry.2)) ++ text) =
        .ok (entries, text) := by
  induction entries generalizing first with
  | nil => rw [readMembers_eq]; cases first <;> rfl
  | cons entry more ih =>
    obtain ⟨isFirst, others⟩ := List.forall_mem_cons.1 restores
    have member := readMember_print entry.1 isFirst
      (delimited_printMoreMembers (more.map fun entry => (entry.1, encode entry.2)) text)
    rw [List.map_cons, printMemberTurn_cons, readMembers_eq, keyTurn_separator]
    exact bind_eq_ok.2 ⟨_, rfl, bind_eq_ok.2 ⟨_, member, map_eq_ok.2 ⟨_, ih others false, rfl⟩⟩⟩

/-- Every item that was read with others was read. -/
theorem reads_of_readItems {first : Bool} {text rest : List Char} {items : List α}
    (read : readItems r first text = .ok (items, rest)) : ∀ a ∈ items, r.Reads a := by
  fun_induction readItems r first text generalizing items with
  | case1 => cases read
  | case2 =>
    cases read
    exact List.forall_mem_nil _
  | case3 => cases read
  | case4 first text start turn a next isRead _ ih =>
    obtain ⟨⟨more, last⟩, readMore, same⟩ := map_eq_ok.1 read
    obtain ⟨rfl, rfl⟩ := Prod.mk.inj same
    exact List.forall_mem_cons.2 ⟨⟨_, _, isRead⟩, ih readMore⟩

theorem reads_of_readMember {text rest : List Char} {member : String × α}
    (read : readMember r text = .ok (member, rest)) : r.Reads member.2 := by
  obtain ⟨⟨key, afterKey⟩, -, read⟩ := bind_eq_ok.1 read
  obtain ⟨afterColon, -, read⟩ := bind_eq_ok.1 read
  obtain ⟨⟨a, last⟩, isValue, same⟩ := map_eq_ok.1 read
  obtain ⟨rfl, rfl⟩ := Prod.mk.inj same
  exact ⟨_, _, isValue⟩

/-- Every value that was read with its key was read. -/
theorem reads_of_readMembers {first : Bool} {text rest : List Char}
    {members : List (String × α)} (read : readMembers r first text = .ok (members, rest)) :
    ∀ member ∈ members, r.Reads member.2 := by
  fun_induction readMembers r first text generalizing members with
  | case1 => cases read
  | case2 =>
    cases read
    exact List.forall_mem_nil _
  | case3 => cases read
  | case4 first text start turn member next isRead _ ih =>
    obtain ⟨⟨more, last⟩, readMore, same⟩ := map_eq_ok.1 read
    obtain ⟨rfl, rfl⟩ := Prod.mk.inj same
    exact List.forall_mem_cons.2 ⟨reads_of_readMember isRead, ih readMore⟩

end Parts

namespace Reader

variable {α : Type} {inner : Nat → Reader α} {encode : α → Json} {room : Nat}

theorem list_restores {items : List α}
    (restores : ∀ a ∈ items, (inner room).Restores (encode a) a) :
    (list inner (room + 1)).Restores (.array (items.map encode)) items where
  whole := isWhole_array.2 (List.forall_mem_map.2 fun a member => (restores a member).whole)
  run text _ := by
    rw [print, list, List.cons_append, front_run rfl]
    exact readItems_printItemTurn restores true text

theorem members_restores (expected : Expected) {entries : List (String × α)}
    (restores : ∀ entry ∈ entries, (inner room).Restores (encode entry.2) entry.2) :
    (members expected inner (room + 1)).Restores
      (.object (entries.map fun entry => (entry.1, encode entry.2))) entries where
  whole :=
    isWhole_object.2 (List.forall_mem_map.2 fun entry member => (restores entry member).whole)
  run text _ := by
    rw [print, members, List.cons_append, front_run rfl]
    exact readMembers_printMemberTurn restores true text

/-- The items of a list that was read were read one bracket further in. -/
theorem exists_of_list_run {text rest : List Char} {items : List α}
    (run : (list inner room).run text = .ok (items, rest)) :
    ∃ left, room = left + 1 ∧ ∀ a ∈ items, (inner left).Reads a := by
  obtain ⟨c, more, -, read⟩ := exists_of_front_run run
  split at read
  · cases room with
    | zero => cases read
    | succ left => exact ⟨left, rfl, reads_of_readItems read⟩
  · cases read

/-- The values of an object that was read were read one bracket further in. -/
theorem exists_of_members_run {expected : Expected} {text rest : List Char}
    {entries : List (String × α)}
    (run : (members expected inner room).run text = .ok (entries, rest)) :
    ∃ left, room = left + 1 ∧ ∀ entry ∈ entries, (inner left).Reads entry.2 := by
  obtain ⟨c, more, -, read⟩ := exists_of_front_run run
  split at read
  · cases room with
    | zero => cases read
    | succ left => exact ⟨left, rfl, reads_of_readMembers read⟩
  · cases read

end Reader

end WalletView.Json
