/-
# Proofs.Json.Turn — what stands between the parts of a bracket

Looking for the next part of a bracket is steady, whatever is then done with the part
(`steady_itemTurn`, `steady_keyTurn`), and it goes through a bracket as passing over it does
(`skipTurn_of_itemTurn`, `skipTurn_of_keyTurn`): both are at the same place when the part begins, and
when the bracket is closed.
-/
import WalletView.Proofs.Json.Steady

set_option autoImplicit false

namespace WalletView.Json

/-! ## Steady turns -/

section Steady

variable {α : Type} {P : α → Prop} {close part : List Char → Outcome α}

/-- What is done with a turn. -/
def Turn.elim (close part : List Char → Outcome α) : Turn → Outcome α
  | .close rest => close rest
  | .part start => part start

/-- What is done with the item behind a comma, which has to come: the list may not be closed. -/
def itemBehindComma (part : List Char → Outcome α) (text : List Char) : Outcome α :=
  match skipBlanks text with
  | [] => .error (.ended .value)
  | c :: rest => if c = ']' then .error .trailingComma else part (c :: rest)

theorem itemTurn_bind (close part : List Char → Outcome α) (first : Bool) (text : List Char) :
    (itemTurn first text).bind (Turn.elim close part) =
      match skipBlanks text with
      | [] => .error (.ended .list)
      | c :: rest =>
        if c = ']' then close rest
        else if first then part (c :: rest)
        else if c = ',' then itemBehindComma part rest
        else .error .expectedListEnd := by
  unfold itemTurn itemBehindComma
  cases skipBlanks text with
  | nil => rfl
  | cons c rest =>
    dsimp only
    split
    · rfl
    split
    · rfl
    split
    · cases skipBlanks rest with
      | nil => rfl
      | cons d more =>
        dsimp only
        split <;> rfl
    · rfl

theorem steady_itemTurn (steadyClose : Steady P close)
    (steadyPart : ∀ c, Steady P fun rest => part (c :: rest)) (first : Bool) :
    Steady P fun text => (itemTurn first text).bind (Turn.elim close part) := by
  have ended (inside : Construct) : (ReadError.ended inside).category ≠ .data := nofun
  have steadyComma : Steady P (itemBehindComma part) :=
    steady_ahead (ended .value)
      (fun c rest => if c = ']' then .error .trailingComma else part (c :: rest)) (fun _ => rfl)
      fun c => steady_ite (fun _ => steady_error fun _ => .trailingComma) fun _ => steadyPart c
  exact steady_ahead (ended .list) _ (itemTurn_bind close part first) fun c =>
    steady_ite (fun _ => steadyClose) fun _ =>
      steady_ite (fun _ => steadyPart c) fun _ =>
        steady_ite (fun _ => steadyComma) fun _ => steady_error fun _ => .expectedListEnd

/-- What is done with the key behind a comma, which has to come: the object may not be closed. -/
def keyBehindComma (part : List Char → Outcome α) (text : List Char) : Outcome α :=
  match skipBlanks text with
  | [] => .error (.ended .value)
  | c :: rest =>
    if c = '"' then part rest
    else if c = '}' then .error .trailingComma
    else .error .keyNotString

theorem keyTurn_bind (close part : List Char → Outcome α) (first : Bool) (text : List Char) :
    (keyTurn first text).bind (Turn.elim close part) =
      match skipBlanks text with
      | [] => .error (.ended .object)
      | c :: rest =>
        if c = '}' then close rest
        else if first then if c = '"' then part rest else .error .keyNotString
        else if c = ',' then keyBehindComma part rest
        else .error .expectedObjectEnd := by
  unfold keyTurn keyBehindComma
  cases skipBlanks text with
  | nil => rfl
  | cons c rest =>
    dsimp only
    split
    · rfl
    split
    · split <;> rfl
    split
    · cases skipBlanks rest with
      | nil => rfl
      | cons d more =>
        dsimp only
        split
        · rfl
        split <;> rfl
    · rfl

theorem steady_keyTurn (steadyClose : Steady P close) (steadyPart : Steady P part) (first : Bool) :
    Steady P fun text => (keyTurn first text).bind (Turn.elim close part) := by
  have ended (inside : Construct) : (ReadError.ended inside).category ≠ .data := nofun
  have steadyComma : Steady P (keyBehindComma part) :=
    steady_ahead (ended .value) _ (fun _ => rfl) fun c =>
      steady_ite (fun _ => steadyPart) fun _ =>
        steady_ite (fun _ => steady_error fun _ => .trailingComma) fun _ =>
          steady_error fun _ => .keyNotString
  exact steady_ahead (ended .object) _ (keyTurn_bind close part first) fun c =>
    steady_ite (fun _ => steadyClose) fun _ =>
      steady_ite
        (fun _ => steady_ite (fun _ => steadyPart) fun _ => steady_error fun _ => .keyNotString)
        fun _ => steady_ite (fun _ => steadyComma) fun _ => steady_error fun _ => .expectedObjectEnd

end Steady

/-! ## What a turn uses -/

theorem rest_of_skipBlanks {text rest : List Char} {c : Char} (front : skipBlanks text = c :: rest) :
    Rest text rest :=
  .of_suffix (skipBlanks_suffix text) (front ▸ .cons c rest)

theorem rest_of_itemTurn {first : Bool} {text rest : List Char}
    (turned : itemTurn first text = .ok (.close rest)) : Rest text rest := by
  unfold itemTurn at turned
  split at turned
  · cases turned
  · rename_i c more front
    split at turned
    · cases turned
      exact rest_of_skipBlanks front
    split at turned
    · cases turned
    split at turned
    · split at turned
      · cases turned
      · split at turned <;> cases turned
    · cases turned

theorem rest_of_keyTurn {first : Bool} {text rest : List Char}
    (turned : keyTurn first text = .ok (.close rest)) : Rest text rest := by
  unfold keyTurn at turned
  split at turned
  · cases turned
  · rename_i c more front
    split at turned
    · cases turned
      exact rest_of_skipBlanks front
    split at turned
    · split at turned <;> cases turned
    split at turned
    · split at turned
      · cases turned
      · split at turned
        · cases turned
        split at turned <;> cases turned
    · cases turned

/-! ## Turns of what is passed over -/

/-- Passes over what comes next inside a bracket: its first part, or what follows another part. -/
def skipTurn (bracket : Bracket) (frames : List Bracket) (first : Bool) (text : List Char) :
    Except ReadError (List Char) :=
  if first then skipFirst bracket frames text else skipAfter (bracket :: frames) text

theorem skipTurn_of_itemTurn {first : Bool} {text : List Char} {turn : Turn}
    (turned : itemTurn first text = .ok turn) (frames : List Bracket) :
    skipTurn .list frames first text =
      match turn with
      | .close rest => skipAfter frames rest
      | .part start => skipValue (.list :: frames) start := by
  unfold itemTurn at turned
  split at turned
  · cases turned
  · rename_i c rest front
    split at turned
    · rename_i isClose
      cases turned
      subst isClose
      cases first with
      | true => simp [skipTurn, skipFirst_eq, front, Bracket.close]
      | false => simp [skipTurn, skipAfter_cons, front, Bracket.close]
    rename_i notClose
    split at turned
    · rename_i isFirst
      cases turned
      obtain ⟨blanks, rfl, isBlanks, -⟩ := skipBlanks_eq_cons_iff.1 front
      have notClose : c ≠ Bracket.list.close := notClose
      simp only [skipTurn, isFirst, if_true, skipFirst_eq, front, if_neg notClose, skipPart_list,
        skipValue_blanks isBlanks]
    rename_i notFirst
    split at turned
    · rename_i isComma
      split at turned
      · cases turned
      · rename_i d more front'
        obtain ⟨blanks, rfl, isBlanks, -⟩ := skipBlanks_eq_cons_iff.1 front'
        split at turned
        · cases turned
        · cases turned
          simp only [skipTurn, notFirst, Bool.false_eq_true, if_false, skipAfter_cons, front,
            isComma, if_true, skipPart_list, skipValue_blanks isBlanks]
    · cases turned

theorem passKey_of_quote {text start : List Char} (front : skipBlanks text = '"' :: start) :
    passKey text = (passString start).bind readColon := by
  simp only [passKey, front, if_true]

theorem skipTurn_of_keyTurn {first : Bool} {text : List Char} {turn : Turn}
    (turned : keyTurn first text = .ok turn) (frames : List Bracket) :
    skipTurn .object frames first text =
      match turn with
      | .close rest => skipAfter frames rest
      | .part start =>
        ((passString start).bind readColon).bind (skipValue (.object :: frames)) := by
  unfold keyTurn at turned
  split at turned
  · cases turned
  · rename_i c rest front
    split at turned
    · rename_i isClose
      cases turned
      subst isClose
      cases first with
      | true => simp [skipTurn, skipFirst_eq, front, Bracket.close]
      | false => simp [skipTurn, skipAfter_cons, front, Bracket.close]
    rename_i notClose
    split at turned
    · rename_i isFirst
      split at turned
      · rename_i isQuote
        cases turned
        subst isQuote
        have notClose : '"' ≠ Bracket.object.close := notClose
        simp only [skipTurn, isFirst, if_true, skipFirst_eq, front, if_neg notClose,
          skipPart_object, passKey_of_quote front]
      · cases turned
    rename_i notFirst
    split at turned
    · rename_i isComma
      split at turned
      · cases turned
      · rename_i d more front'
        split at turned
        · rename_i isQuote
          cases turned
          subst isQuote
          simp only [skipTurn, notFirst, Bool.false_eq_true, if_false, skipAfter_cons, front,
            isComma, if_true, skipPart_object, passKey_of_quote front']
        · split at turned <;> cases turned
    · cases turned

end WalletView.Json
