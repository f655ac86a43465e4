/-
# Proofs.Memo.Allocation — which allocation a call is answered with

A selector computes anew for changed inputs and then, by one of its methods, allocates anew.  So it
can be told from the inputs alone whether a call of `select` is answered with the allocation of the
last one (`Repeats`).

`selectReusingEqual` compares what it computes, too, and keeps an equal answer, whatever its inputs.
Its allocation is that of a certain earlier answer just if all values that it has given since are
equal to the value it gave then (`Since`).
-/
import WalletView.Proofs.Memo.Run

set_option autoImplicit false

namespace WalletView.Selector

variable {shape : Dependency} {β : Type} {s : Selector shape β} {inputs : shape.Value}
  {supply after : Supply}

/-- What the selector remembers is allocated. -/
def Allocated (s : Selector shape β) (supply : Supply) : Prop :=
  s.Remembers fun _ answer => answer.token < supply.next

theorem Allocated.mono (allocated : s.Allocated supply) (grows : supply.next ≤ after.next) :
    s.Allocated after :=
  allocated.imp fun _ _ below => Nat.lt_of_lt_of_le below grows

/-- The selector follows the call whose inputs and answer it stores. -/
theorem follows_entry (s : Selector shape β) : s.Follows s.entry := by
  unfold Follows
  split
  · assumption
  · rename_i inputs answer entry
    exact ⟨inputs, entry, Dependency.unchanged_refl _ _⟩

/-! ## The last inputs -/

/-- The last call had these inputs and was given an answer in this allocation. -/
def Gave (s : Selector shape β) (inputs : shape.Value) (token : Nat) : Prop :=
  ∃ answer, s.Holds inputs answer ∧ answer.token = token

theorem Gave.allocated {token : Nat} (gave : s.Gave inputs token) (allocated : s.Allocated supply) :
    token < supply.next := by
  obtain ⟨answer, ⟨stored, entry, -⟩, rfl⟩ := gave
  exact allocated stored answer entry

/-- A call that is answered with the allocation of the last one just if the inputs are unchanged
from that one's. -/
structure Repeats (before : Selector shape β) (inputs : shape.Value) (supply : Supply)
    (result : Shared β × Selector shape β) (after : Supply) : Prop where
  gave : result.2.Gave inputs result.1.token
  same_iff : ∀ previous token, before.Gave previous token →
    (result.1.token = token ↔ shape.unchanged inputs previous = true)
  allocated : result.2.Allocated after
  grows : supply.next ≤ after.next

/-- **The allocation is the last one again just if the inputs are unchanged.** -/
theorem select_repeats (allocated : s.Allocated supply) (inputs : shape.Value)
    (compute : shape.Value → β) :
    (s.select inputs compute).Ends supply (s.Repeats inputs supply) := by
  rw [select_eq]
  cases found : s.remembered? inputs with
  | some answer =>
    obtain ⟨stored, entry, unchanged⟩ := remembered?_eq_some_iff.1 found
    refine .pure ⟨⟨answer, ⟨stored, entry, unchanged⟩, rfl⟩, ?_, allocated, Nat.le_refl _⟩
    rintro previous _ ⟨last, holds, rfl⟩
    rw [holds.remembered?_eq inputs] at found
    split at found
    · rename_i same
      cases found
      exact iff_of_true rfl same
    · cases found
  | none =>
    refine ⟨⟨_, holds_miss s _ _, rfl⟩, fun previous token gave => ?_,
      remembers_of_entry rfl (Nat.lt_succ_self _), Nat.le_succ _⟩
    have below := gave.allocated allocated
    obtain ⟨last, holds, rfl⟩ := gave
    rw [holds.remembered?_eq inputs] at found
    split at found
    · cases found
    · rename_i changed
      exact iff_of_false (Nat.ne_of_gt below) changed

/-! ## The values given since -/

/-- The selector gave a value in this allocation, and since then the values `given`: the answer
that it stores now is in that allocation just if all of them are equal to the value. -/
def Since (s : Selector shape β) (given : List β) (value : β) (token : Nat) : Prop :=
  ∃ inputs now, s.entry = some (inputs, now) ∧ token ≤ now.token ∧
    (now.token = token ↔ ∀ other ∈ given, other = value) ∧ (now.token = token → now.value = value)

/-- A call that keeps an equal answer: it is one more value since any earlier one. -/
structure Extends (before : Selector shape β) (supply : Supply)
    (result : Shared β × Selector shape β) (after : Supply) : Prop where
  now : ∃ inputs, result.2.entry = some (inputs, result.1)
  since : ∀ given value token, before.Since given value token →
    result.2.Since (result.1.value :: given) value token
  allocated : result.2.Allocated after
  grows : supply.next ≤ after.next

/-- **The allocation is an earlier one again just if all values since are equal to its value.** -/
theorem selectReusingEqual_extends [BEq β] [LawfulBEq β] (allocated : s.Allocated supply)
    (inputs : shape.Value) (compute : shape.Value → β) :
    (s.selectReusingEqual inputs compute).Ends supply (s.Extends supply) := by
  have outcome := ask_outcome s.follows_entry ⟨true, inputs, compute⟩ supply
  show s.Extends supply (Call.ask ⟨true, inputs, compute⟩ s supply).1
    (Call.ask ⟨true, inputs, compute⟩ s supply).2
  revert outcome
  generalize Call.ask ⟨true, inputs, compute⟩ s supply = result
  generalize Call.computedOn ⟨true, inputs, compute⟩ s supply = computedOn
  -- The answer that was stored is given again: its value is one more that is equal to itself.
  have again {previous : shape.Value} {answer : Shared β} {left : Selector shape β}
      (entry : s.entry = some (previous, answer))
      (stored : ∃ inputs, left.entry = some (inputs, answer)) :
      s.Extends supply (answer, left) supply := by
    refine ⟨stored, ?_, ?_, Nat.le_refl _⟩
    · rintro given value token ⟨_, now, entry', after, same_iff, equal⟩
      obtain ⟨rfl, rfl⟩ := Prod.mk.inj (Option.some.inj (entry.symm.trans entry'))
      obtain ⟨inputs, entry⟩ := stored
      refine ⟨inputs, answer, entry, after, ?_, equal⟩
      rw [List.forall_mem_cons, ← same_iff]
      exact ⟨fun same => ⟨equal same, same⟩, And.right⟩
    · obtain ⟨inputs, entry'⟩ := stored
      exact remembers_of_entry entry' (allocated _ _ entry)
  intro outcome
  cases outcome with
  | hit isLast => exact again isLast ⟨_, isLast⟩
  | reuse isLast => exact again isLast ⟨_, rfl⟩
  | compute changed =>
    refine ⟨⟨_, rfl⟩, ?_, remembers_of_entry rfl (Nat.lt_succ_self _), Nat.le_succ _⟩
    rintro given value token ⟨previous, now, entry, after, same_iff, equal⟩
    have below : now.token < supply.next := allocated _ _ entry
    have isNew : supply.next ≠ token := by omega
    refine ⟨_, _, rfl, by show token ≤ supply.next; omega, ?_, fun same => absurd same isNew⟩
    refine iff_of_false isNew fun all => ?_
    obtain ⟨isValue, others⟩ := List.forall_mem_cons.1 all
    have unequal := (changed previous now entry).2 rfl
    exact beq_eq_false_iff_ne.1 unequal ((equal (same_iff.2 others)).trans isValue.symm)

theorem since_of_entry {answer : Shared β} (entry : s.entry = some (inputs, answer)) :
    s.Since [] answer.value answer.token :=
  ⟨inputs, answer, entry, Nat.le_refl _, by simp, fun _ => rfl⟩

end WalletView.Selector
