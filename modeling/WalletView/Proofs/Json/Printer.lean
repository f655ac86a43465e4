/-
# Proofs.Json.Printer — a value is told by its text

No two whole values have one text, and no text of one goes on to be that of another: where two
texts that start with values and go on behind them are the same, the values are the same and so is
what follows (`isTold`).

* The first character tells what kind of value it is (`print_eq_cons`).
* A string ends at its first bare quote, so it may be followed by anything (`quote_append_inj`).
* A number has no end of its own; it is told where it is delimited, which a value is inside any
  bracket (`integerText_append_inj`).
* The items of an array and the members of an object are told one after another, and what stands
  between two of them is no end of a bracket (`items_told`, `members_told`).  The members in front
  are told even where a double stands behind them (`front_eq_of_compact_eq`).
-/
import WalletView.Proofs.Json.Reader

set_option autoImplicit false

namespace WalletView.Json

/-- Induction on a value: the items of an array and the values of an object come before it. -/
@[elab_as_elim]
theorem induction {P : Json → Prop} (null : P .null) (bool : ∀ b, P (.bool b))
    (number : ∀ n, P (.number n)) (string : ∀ s, P (.string s))
    (array : ∀ items, (∀ item ∈ items, P item) → P (.array items))
    (object : ∀ members, (∀ member ∈ members, P member.2) → P (.object members)) (j : Json) :
    P j :=
  Json.rec (motive_1 := P) (motive_2 := fun items => ∀ item ∈ items, P item)
    (motive_3 := fun members => ∀ member ∈ members, P member.2)
    (motive_4 := fun member => P member.2)
    null bool number string array object
    (List.forall_mem_nil _) (fun _ _ head tail => List.forall_mem_cons.2 ⟨head, tail⟩)
    (List.forall_mem_nil _) (fun _ _ head tail => List.forall_mem_cons.2 ⟨head, tail⟩)
    (fun _ _ value => value) j

/-! ## Single values -/

/-- A string ends at its first bare quote, whatever follows. -/
theorem quote_append_inj {s t : String} {text rest : List Char}
    (same : quote s ++ text = quote t ++ rest) : s = t ∧ text = rest := by
  rw [quote_append, quote_append] at same
  have read := readString_escape s text
  rw [(List.cons.inj same).2, readString_escape t rest] at read
  obtain ⟨rfl, rfl⟩ := Prod.mk.inj (Except.ok.inj read)
  exact ⟨rfl, rfl⟩

theorem toDigits_append_inj {m n : Nat} {text rest : List Char} (delimited : Delimited text)
    (delimited' : Delimited rest)
    (same : Nat.toDigits 10 m ++ text = Nat.toDigits 10 n ++ rest) : m = n ∧ text = rest := by
  have isDigits (k : Nat) (c : Char) (member : c ∈ Nat.toDigits 10 k) : c.isDigit = true :=
    Nat.isDigit_of_mem_toDigits (by decide) (by decide) member
  have taken := takeDigits_append (isDigits m) delimited
  rw [same, takeDigits_append (isDigits n) delimited'] at taken
  obtain ⟨digits, rest⟩ := Prod.mk.inj taken
  have value := congrArg (Nat.ofDigitChars 10 · 0) digits
  simp only [Nat.ofDigitChars_ten_toDigits] at value
  exact ⟨value.symm, rest.symm⟩

/-- An integer is told by its sign and its digits, as far as these go. -/
theorem integerText_append_inj {m n : Int} {text rest : List Char} (delimited : Delimited text)
    (delimited' : Delimited rest)
    (same : Number.integerText m ++ text = Number.integerText n ++ rest) : m = n ∧ text = rest := by
  have notMinus (k : Nat) (l : Nat) (text rest : List Char) :
      '-' :: Nat.toDigits 10 k ++ text ≠ Nat.toDigits 10 l ++ rest := by
    intro same
    obtain ⟨c, more, front, isDigit⟩ := toDigits_eq_cons l
    rw [front] at same
    obtain rfl := (List.cons.inj same).1
    exact absurd isDigit (by decide)
  unfold Number.integerText at same
  by_cases negative : m < 0
  · by_cases negative' : n < 0
    · rw [if_pos negative, if_pos negative'] at same
      obtain ⟨number, following⟩ :=
        toDigits_append_inj delimited delimited' (List.cons.inj same).2
      exact ⟨by omega, following⟩
    · rw [if_pos negative, if_neg negative'] at same
      exact absurd same (notMinus _ _ _ _)
  · by_cases negative' : n < 0
    · rw [if_neg negative, if_pos negative'] at same
      exact absurd same.symm (notMinus _ _ _ _)
    · rw [if_neg negative, if_neg negative'] at same
      obtain ⟨number, following⟩ := toDigits_append_inj delimited delimited' same
      exact ⟨by omega, following⟩

/-! ## Values with parts -/

theorem kind_eq {a b : Json} {text rest : List Char} (wholeA : a.isWhole = true)
    (wholeB : b.isWhole = true) (same : a.print ++ text = b.print ++ rest) : a.kind = b.kind := by
  obtain ⟨c, more, front, -, kindA⟩ := print_eq_cons wholeA
  obtain ⟨d, others, front', -, kindB⟩ := print_eq_cons wholeB
  rw [front, front'] at same
  obtain rfl := (List.cons.inj same).1
  exact kindA.symm.trans kindB

/-- The value is told by its text, and so is what follows it there. -/
def IsTold (a : Json) : Prop :=
  ∀ b text rest, b.isWhole = true → Delimited text → Delimited rest →
    a.print ++ text = b.print ++ rest → a = b ∧ text = rest

section Turns

variable {first : Bool} {text rest : List Char}

/-- An item is not the end of an array. -/
theorem printItemTurn_cons_ne {item : Json} (whole : item.isWhole = true) (more : List Json) :
    printItemTurn first (item :: more) ++ text ≠ printItemTurn first [] ++ rest := by
  intro same
  rw [printItemTurn_cons] at same
  cases first with
  | true =>
    obtain ⟨c, others, front, starts, -⟩ := print_eq_cons whole
    rw [front] at same
    exact starts.notListEnd (List.cons.inj same).1
  | false => exact absurd (List.cons.inj same).1 (by decide)

/-- The items of an array are told one after another, and end where the bracket does. -/
theorem items_told {items others : List Json} (told : ∀ item ∈ items, item.IsTold)
    (wholeItems : ∀ item ∈ items, item.isWhole = true)
    (wholeOthers : ∀ item ∈ others, item.isWhole = true)
    (same : printItemTurn first items ++ text = printItemTurn first others ++ rest) :
    items = others ∧ text = rest := by
  induction items generalizing first others with
  | nil =>
    cases others with
    | nil => exact ⟨rfl, List.append_cancel_left same⟩
    | cons other others =>
      exact absurd same.symm (printItemTurn_cons_ne (List.forall_mem_cons.1 wholeOthers).1 others)
  | cons item items ih =>
    obtain ⟨isWhole, wholeItems⟩ := List.forall_mem_cons.1 wholeItems
    obtain ⟨isTold, toldItems⟩ := List.forall_mem_cons.1 told
    cases others with
    | nil => exact absurd same (printItemTurn_cons_ne isWhole items)
    | cons other others =>
      obtain ⟨isWhole', wholeMore⟩ := List.forall_mem_cons.1 wholeOthers
      rw [printItemTurn_cons, printItemTurn_cons] at same
      obtain ⟨value, further⟩ := isTold other (printItemTurn false items ++ text)
        (printItemTurn false others ++ rest) isWhole' (delimited_printMoreItems items text)
        (delimited_printMoreItems others rest) (List.append_cancel_left same)
      obtain ⟨values, following⟩ := ih toldItems wholeItems wholeMore further
      exact ⟨congrArg₂ List.cons value values, following⟩

/-- A member is not the end of an object. -/
theorem printMemberTurn_cons_ne (member : String × Json) (more : List (String × Json)) :
    printMemberTurn first (member :: more) ++ text ≠ printMemberTurn first [] ++ rest := by
  intro same
  rw [printMemberTurn_cons] at same
  cases first with
  | true => exact absurd (List.cons.inj same).1 (by decide)
  | false => exact absurd (List.cons.inj same).1 (by decide)

/-- The first of several members is told, whatever the others are. -/
theorem member_told {member other : String × Json} {members others : List (String × Json)}
    (told : member.2.IsTold) (whole : other.2.isWhole = true)
    (same : printMemberTurn first (member :: members) ++ text =
      printMemberTurn first (other :: others) ++ rest) :
    member = other ∧
      printMemberTurn false members ++ text = printMemberTurn false others ++ rest := by
  rw [printMemberTurn_cons, printMemberTurn_cons] at same
  obtain ⟨key, values⟩ := quote_append_inj (List.append_cancel_left same)
  obtain ⟨value, further⟩ := told other.2 _ _ whole (delimited_printMoreMembers members text)
    (delimited_printMoreMembers others rest) (List.cons.inj values).2
  exact ⟨Prod.ext key value, further⟩

/-- The members of an object are told one after another, and end where the brace does. -/
theorem members_told {members others : List (String × Json)}
    (told : ∀ member ∈ members, member.2.IsTold)
    (wholeOthers : ∀ member ∈ others, member.2.isWhole = true)
    (same : printMemberTurn first members ++ text = printMemberTurn first others ++ rest) :
    members = others ∧ text = rest := by
  induction members generalizing first others with
  | nil =>
    cases others with
    | nil => exact ⟨rfl, List.append_cancel_left same⟩
    | cons other others => exact absurd same.symm (printMemberTurn_cons_ne other others)
  | cons member members ih =>
    obtain ⟨isTold, toldMembers⟩ := List.forall_mem_cons.1 told
    cases others with
    | nil => exact absurd same (printMemberTurn_cons_ne member members)
    | cons other others =>
      obtain ⟨isWhole, wholeMore⟩ := List.forall_mem_cons.1 wholeOthers
      obtain ⟨value, further⟩ := member_told isTold isWhole same
      obtain ⟨values, following⟩ := ih toldMembers wholeMore further
      exact ⟨congrArg₂ List.cons value values, following⟩

/-- As many members in front are told one after another, however the objects go on. -/
theorem members_told_of_append {front others more furtherMore : List (String × Json)}
    (told : ∀ member ∈ front, member.2.IsTold)
    (wholeOthers : ∀ member ∈ others, member.2.isWhole = true)
    (asMany : front.length = others.length)
    (same : printMemberTurn first (front ++ more) ++ text =
      printMemberTurn first (others ++ furtherMore) ++ rest) : front = others := by
  induction front generalizing first others with
  | nil => exact (List.length_eq_zero_iff.1 asMany.symm).symm
  | cons member front ih =>
    obtain ⟨isTold, toldFront⟩ := List.forall_mem_cons.1 told
    cases others with
    | nil => cases asMany
    | cons other others =>
      obtain ⟨isWhole, wholeMore⟩ := List.forall_mem_cons.1 wholeOthers
      obtain ⟨value, further⟩ := member_told isTold isWhole same
      exact congrArg₂ List.cons value (ih toldFront wholeMore (Nat.succ.inj asMany) further)

end Turns

/-- **A whole value is told by its text**: induction on the value, whose kind its first character
tells. -/
theorem isTold {a : Json} (whole : a.isWhole = true) : a.IsTold := by
  induction a using induction with
  | null =>
    intro b text rest wholeB _ _ same
    have kinds := kind_eq whole wholeB same
    cases b with
    | null => exact ⟨rfl, List.append_cancel_left same⟩
    | bool | number | string | array | object => cases kinds
  | bool b =>
    intro other text rest wholeB _ _ same
    have kinds := kind_eq whole wholeB same
    cases other with
    | bool c =>
      have letters : boolText b ++ text = boolText c ++ rest := same
      cases b <;> cases c <;> simp_all [boolText]
    | null | number | string | array | object => cases kinds
  | number n =>
    intro b text rest wholeB delimited delimited' same
    have kinds := kind_eq whole wholeB same
    cases b with
    | number m =>
      cases n with
      | double x => cases whole
      | integer n =>
        cases m with
        | double x => cases wholeB
        | integer m =>
          obtain ⟨rfl, following⟩ := integerText_append_inj delimited delimited' same
          exact ⟨rfl, following⟩
    | null | bool | string | array | object => cases kinds
  | string s =>
    intro b text rest wholeB _ _ same
    have kinds := kind_eq whole wholeB same
    cases b with
    | string t =>
      obtain ⟨rfl, following⟩ := quote_append_inj same
      exact ⟨rfl, following⟩
    | null | bool | number | array | object => cases kinds
  | array items ih =>
    intro b text rest wholeB _ _ same
    have kinds := kind_eq whole wholeB same
    cases b with
    | array others =>
      have wholeItems := isWhole_array.1 whole
      have told (item : Json) (member : item ∈ items) := ih item member (wholeItems item member)
      have inside : printItemTurn true items ++ text = printItemTurn true others ++ rest :=
        (List.cons.inj same).2
      obtain ⟨rfl, following⟩ := items_told told wholeItems (isWhole_array.1 wholeB) inside
      exact ⟨rfl, following⟩
    | null | bool | number | string | object => cases kinds
  | object members ih =>
    intro b text rest wholeB _ _ same
    have kinds := kind_eq whole wholeB same
    cases b with
    | object others =>
      have wholeMembers := isWhole_object.1 whole
      have told (entry : String × Json) (member : entry ∈ members) :=
        ih entry member (wholeMembers entry member)
      have inside : printMemberTurn true members ++ text = printMemberTurn true others ++ rest :=
        (List.cons.inj same).2
      obtain ⟨rfl, following⟩ := members_told told (isWhole_object.1 wholeB) inside
      exact ⟨rfl, following⟩
    | null | bool | number | string | array => cases kinds

/-- **Whole values with one text are one value.** -/
theorem eq_of_compact_eq {a b : Json} (wholeA : a.isWhole = true) (wholeB : b.isWhole = true)
    (same : a.compact = b.compact) : a = b := by
  have text : a.print ++ [] = b.print ++ [] := by
    rw [List.append_nil, List.append_nil]
    exact String.ofList_inj.1 same
  exact (isTold wholeA b [] [] wholeB delimited_nil delimited_nil text).1

/-- Objects with one text have the same whole members in front, whatever stands behind them. -/
theorem front_eq_of_compact_eq {front others more furtherMore : List (String × Json)}
    (whole : ∀ member ∈ front, member.2.isWhole = true)
    (wholeOthers : ∀ member ∈ others, member.2.isWhole = true)
    (asMany : front.length = others.length)
    (same : (object (front ++ more)).compact = (object (others ++ furtherMore)).compact) :
    front = others := by
  have text : printMemberTurn true (front ++ more) ++ [] =
      printMemberTurn true (others ++ furtherMore) ++ [] := by
    rw [List.append_nil, List.append_nil]
    exact (List.cons.inj (String.ofList_inj.1 same)).2
  exact members_told_of_append (fun member isMember => isTold (whole member isMember)) wholeOthers
    asMany text

/-! ## Equality by value -/

theorem sameItems_self {items : List Json} (all : ∀ item ∈ items, item.same item = true) :
    sameItems items items = true := by
  induction items with
  | nil => rfl
  | cons item items ih =>
    obtain ⟨first, others⟩ := List.forall_mem_cons.1 all
    rw [sameItems, first, ih others, Bool.and_self]

theorem sameMembers_self {members : List (String × Json)}
    (all : ∀ member ∈ members, member.2.same member.2 = true) :
    sameMembers members members = true := by
  induction members with
  | nil => rfl
  | cons member members ih =>
    obtain ⟨first, others⟩ := List.forall_mem_cons.1 all
    rw [sameMembers, first, ih others, beq_self_eq_true, Bool.and_self, Bool.and_self]

/-- A whole value equals itself; a double that is no number would not. -/
theorem same_self {j : Json} (whole : j.isWhole = true) : j.same j = true := by
  induction j using induction with
  | null => rfl
  | bool b => exact beq_self_eq_true b
  | number n =>
    cases n with
    | double x => cases whole
    | integer n => exact beq_self_eq_true n
  | string s => exact beq_self_eq_true s
  | array items ih =>
    have wholeItems := isWhole_array.1 whole
    exact sameItems_self fun item member => ih item member (wholeItems item member)
  | object members ih =>
    have wholeMembers := isWhole_object.1 whole
    exact sameMembers_self fun entry member => ih entry member (wholeMembers entry member)

end WalletView.Json
