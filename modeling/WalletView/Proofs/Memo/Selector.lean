/-
# Proofs.Memo.Selector — what one call of a selector does

One call of a selector whose memory is right ends as `Selector.Answers` says, by either of its two
methods:

* the answer has the value that is computed from the call's own inputs;
* the selector remembers this answer for these inputs;
* the answer is the one that the selector remembered before, or a new allocation.

The last point is what a second selector that is kept under the answers of a first one needs: an
answer that it has seen comes back only as that very answer (`Selector.Chained`).
-/
import WalletView.Memo.Selector
import WalletView.Proofs.Memo.Dependency
import WalletView.Proofs.Memo.Shared

set_option autoImplicit false

namespace WalletView

/-! ## One selector -/

namespace Selector

variable {shape : Dependency} {β : Type}

/-- What the selector remembers, if anything, satisfies `P`. -/
def Remembers (s : Selector shape β) (P : shape.Value → Shared β → Prop) : Prop :=
  ∀ inputs answer, s.entry = some (inputs, answer) → P inputs answer

/-- One call with some inputs, from `supply` to `after`: what it gives has the value asked for,
and the selector remembers just that. -/
structure Answers (before : Selector shape β) (inputs : shape.Value) (value : β) (supply : Supply)
    (result : Shared β × Selector shape β) (after : Supply) : Prop where
  value : result.1.value = value
  entry : result.2.entry = some (inputs, result.1)
  source : (∃ previous, before.entry = some (previous, result.1)) ∨
    result.1.token = supply.next ∧ supply.next < after.next
  grows : supply.next ≤ after.next

theorem remembers_new (name : String) (P : shape.Value → Shared β → Prop) :
    (new name : Selector shape β).Remembers P := by
  intro inputs answer entry
  cases entry

theorem Remembers.imp {s : Selector shape β} {P Q : shape.Value → Shared β → Prop}
    (remembers : s.Remembers P) (imp : ∀ inputs answer, P inputs answer → Q inputs answer) :
    s.Remembers Q :=
  fun inputs answer entry => imp _ _ (remembers inputs answer entry)

theorem remembers_of_entry {s : Selector shape β} {inputs : shape.Value} {answer : Shared β}
    {P : shape.Value → Shared β → Prop} (entry : s.entry = some (inputs, answer))
    (holds : P inputs answer) : s.Remembers P := by
  intro inputs' answer' entry'
  obtain ⟨rfl, rfl⟩ := Prod.mk.inj (Option.some.inj (entry.symm.trans entry'))
  exact holds

theorem remembered?_eq_some_iff {s : Selector shape β} {inputs : shape.Value}
    {answer : Shared β} :
    s.remembered? inputs = some answer ↔
      ∃ previous, s.entry = some (previous, answer) ∧ shape.unchanged inputs previous = true := by
  constructor
  · intro hit
    unfold remembered? at hit
    split at hit
    · rename_i previous old entry
      split at hit
      · rename_i same
        cases hit
        exact ⟨previous, entry, same⟩
      · cases hit
    · cases hit
  · rintro ⟨previous, entry, same⟩
    simp only [remembered?, entry, same, if_true]

theorem select_eq (s : Selector shape β) (inputs : shape.Value) (compute : shape.Value → β) :
    s.select inputs compute =
      (match s.remembered? inputs with
      | some answer => pure (answer, s.hit)
      | none => do
        let answer ← allocate (compute inputs)
        pure (answer, s.miss inputs answer)) := by
  unfold select selectBy
  cases s.remembered? inputs <;> rfl

theorem selectReusingEqual_eq [BEq β] (s : Selector shape β) (inputs : shape.Value)
    (compute : shape.Value → β) :
    s.selectReusingEqual inputs compute =
      (match s.remembered? inputs with
      | some answer => pure (answer, s.hit)
      | none =>
        match s.entry with
        | some (_, answer) =>
          if answer.value == compute inputs then pure (answer, s.miss inputs answer)
          else do
            let answer ← allocate (compute inputs)
            pure (answer, s.miss inputs answer)
        | none => do
          let answer ← allocate (compute inputs)
          pure (answer, s.miss inputs answer)) := by
  unfold selectReusingEqual selectReusingEqualBy
  cases s.remembered? inputs with
  | some answer => rfl
  | none => cases s.entry <;> rfl

section Call

variable {s : Selector shape β} {inputs : shape.Value} {compute : shape.Value → β}

/-- A hit answers the call: unchanged inputs are the remembered ones. -/
theorem hit_answers {answer : Shared β} {supply : Supply}
    (right : s.Remembers fun previous answer =>
      shape.Coherent inputs previous ∧ answer.value = compute previous)
    (hit : s.remembered? inputs = some answer) :
    s.Answers inputs (compute inputs) supply (answer, s.hit) supply := by
  obtain ⟨previous, entry, unchanged⟩ := remembered?_eq_some_iff.1 hit
  obtain ⟨coherent, value⟩ := right previous answer entry
  obtain rfl : inputs = previous := Dependency.eq_of_unchanged coherent unchanged
  exact ⟨value, entry, .inl ⟨inputs, entry⟩, Nat.le_refl _⟩

/-- A miss that allocates answers the call. -/
theorem miss_answers (value : β) (supply : Supply) :
    (do let answer ← allocate value
        pure (answer, s.miss inputs answer) : Allocating (Shared β × Selector shape β)).Ends supply
      (s.Answers inputs value supply) :=
  ⟨rfl, rfl, .inr ⟨rfl, Nat.lt_succ_self _⟩, Nat.le_succ _⟩

/-- **A call of a selector whose memory is right gives what its own inputs give.** -/
theorem select_answers (supply : Supply)
    (right : s.Remembers fun previous answer =>
      shape.Coherent inputs previous ∧ answer.value = compute previous) :
    (s.select inputs compute).Ends supply (s.Answers inputs (compute inputs) supply) := by
  rw [select_eq]
  cases hit : s.remembered? inputs with
  | some answer => exact .pure (hit_answers right hit)
  | none => exact miss_answers _ supply

/-- The same of a call that keeps an equal answer. -/
theorem selectReusingEqual_answers [BEq β] [LawfulBEq β] (supply : Supply)
    (right : s.Remembers fun previous answer =>
      shape.Coherent inputs previous ∧ answer.value = compute previous) :
    (s.selectReusingEqual inputs compute).Ends supply
      (s.Answers inputs (compute inputs) supply) := by
  rw [selectReusingEqual_eq]
  cases hit : s.remembered? inputs with
  | some answer => exact .pure (hit_answers right hit)
  | none =>
    rcases entry : s.entry with _ | ⟨previous, answer⟩
    · exact miss_answers _ supply
    · by_cases equal : (answer.value == compute inputs) = true
      · simp only [equal, if_true]
        exact .pure ⟨eq_of_beq equal, rfl, .inl ⟨previous, entry⟩, Nat.le_refl _⟩
      · simp only [equal]
        exact miss_answers _ supply

end Call

/-! ## A selector over many calls -/

/-- The selector remembers what `compute` gives for inputs of a kind. -/
def Keeps (s : Selector shape β) (drawn : shape.Value → Prop) (compute : shape.Value → β) : Prop :=
  s.Remembers fun inputs answer => drawn inputs ∧ answer.value = compute inputs

/-- A call of a selector that keeps what `compute` gives, and goes on to do so. -/
structure Renews (before : Selector shape β) (drawn : shape.Value → Prop)
    (compute : shape.Value → β) (inputs : shape.Value) (supply : Supply)
    (result : Shared β × Selector shape β) (after : Supply) : Prop
    extends before.Answers inputs (compute inputs) supply result after where
  keeps : result.2.Keeps drawn compute

namespace Keeps

variable {s : Selector shape β} {drawn : shape.Value → Prop} {compute : shape.Value → β}
  {inputs : shape.Value}

theorem new (name : String) (drawn : shape.Value → Prop) (compute : shape.Value → β) :
    (Selector.new name : Selector shape β).Keeps drawn compute :=
  remembers_new name _

/-- Where all inputs of the kind are coherent, so are those of a call with the remembered ones. -/
theorem coherent (keeps : s.Keeps drawn compute) (given : drawn inputs)
    (agree : ∀ x y, drawn x → drawn y → shape.Coherent x y) :
    s.Remembers fun previous _ => shape.Coherent inputs previous :=
  fun previous answer entry => agree _ _ given (keeps previous answer entry).1

/-- With inputs that are coherent with the remembered ones, the memory is right for a call. -/
theorem right (keeps : s.Keeps drawn compute)
    (coherent : s.Remembers fun previous _ => shape.Coherent inputs previous) :
    s.Remembers fun previous answer =>
      shape.Coherent inputs previous ∧ answer.value = compute previous :=
  fun previous answer entry =>
    ⟨coherent previous answer entry, (keeps previous answer entry).2⟩

theorem select_renews (keeps : s.Keeps drawn compute) (supply : Supply) (given : drawn inputs)
    (coherent : s.Remembers fun previous _ => shape.Coherent inputs previous) :
    (s.select inputs compute).Ends supply (s.Renews drawn compute inputs supply) := by
  refine (select_answers supply (keeps.right coherent)).imp fun result after call => ?_
  exact ⟨call, remembers_of_entry call.entry ⟨given, call.value⟩⟩

theorem selectReusingEqual_renews [BEq β] [LawfulBEq β] (keeps : s.Keeps drawn compute)
    (supply : Supply) (given : drawn inputs)
    (coherent : s.Remembers fun previous _ => shape.Coherent inputs previous) :
    (s.selectReusingEqual inputs compute).Ends supply (s.Renews drawn compute inputs supply) := by
  refine (selectReusingEqual_answers supply (keeps.right coherent)).imp
    fun result after call => ?_
  exact ⟨call, remembers_of_entry call.entry ⟨given, call.value⟩⟩

end Keeps

/-! ## Two selectors in a row -/

/-- A selector and the last of its answers that a second selector was given: both are allocated,
and if they are one allocation, they are one answer. -/
structure Chained (first : Selector shape β) (seen : Option (Shared β)) (supply : Supply) :
    Prop where
  allocated : first.Remembers fun _ answer => answer.token < supply.next
  seen_allocated : ∀ old ∈ seen, old.token < supply.next
  coherent : first.Remembers fun _ answer => ∀ old ∈ seen, answer.sameAs old = true → answer = old

namespace Chained

variable {first : Selector shape β} {seen : Option (Shared β)} {supply after : Supply}

theorem mono (chained : first.Chained seen supply) (grows : supply.next ≤ after.next) :
    first.Chained seen after where
  allocated := chained.allocated.imp fun _ _ below => Nat.lt_of_lt_of_le below grows
  seen_allocated old member := Nat.lt_of_lt_of_le (chained.seen_allocated old member) grows
  coherent := chained.coherent

theorem new (name : String) (supply : Supply) :
    (Selector.new name : Selector shape β).Chained none supply where
  allocated := remembers_new name _
  seen_allocated := by simp
  coherent := remembers_new name _

variable {inputs : shape.Value} {value : β} {result : Shared β × Selector shape β}

/-- The answer to a call of the first selector is allocated by then. -/
theorem answer_allocated (chained : first.Chained seen supply)
    (call : first.Answers inputs value supply result after) : result.1.token < after.next := by
  rcases call.source with ⟨previous, entry⟩ | ⟨fresh, grows⟩
  · exact Nat.lt_of_lt_of_le (chained.allocated previous _ entry) call.grows
  · exact fresh ▸ grows

/-- The answer to a call of the first selector is the one seen last, or another allocation. -/
theorem answer_coherent (chained : first.Chained seen supply)
    (call : first.Answers inputs value supply result after) :
    ∀ old ∈ seen, result.1.sameAs old = true → result.1 = old := by
  intro old member same
  rcases call.source with ⟨previous, entry⟩ | ⟨fresh, _⟩
  · exact chained.coherent previous _ entry old member same
  · have below := chained.seen_allocated old member
    have token := Shared.sameAs_iff.1 same
    omega

/-- A call of the first selector keeps the two in step. -/
theorem call (chained : first.Chained seen supply)
    (call : first.Answers inputs value supply result after) : result.2.Chained seen after where
  allocated := remembers_of_entry call.entry (chained.answer_allocated call)
  seen_allocated old member := Nat.lt_of_lt_of_le (chained.seen_allocated old member) call.grows
  coherent := remembers_of_entry call.entry (chained.answer_coherent call)

/-- The two are in step, too, once the second selector has been given the answer. -/
theorem given (chained : first.Chained seen supply)
    (call : first.Answers inputs value supply result after) :
    result.2.Chained (some result.1) after where
  allocated := remembers_of_entry call.entry (chained.answer_allocated call)
  seen_allocated old member := by
    obtain rfl := Option.mem_some_iff.1 member
    exact chained.answer_allocated call
  coherent := by
    refine remembers_of_entry call.entry fun old member _ => ?_
    exact Option.mem_some_iff.1 member

end Chained

end Selector

end WalletView
