/-
# Proofs.Memo.Repeat — a call that is made again

Whatever a selector stored before a call, and by whichever method it is called, it then holds the
answer that it gave for the inputs of the call (`Selector.Settles`).  The same call, made again, is
answered from the entry: nothing is computed or allocated, and nothing of the selector changes but
the count of its hits.
-/
import WalletView.Proofs.Memo.Run

set_option autoImplicit false

namespace WalletView.Selector

variable {shape : Dependency} {β : Type} {s : Selector shape β} {inputs : shape.Value}
  {answer : Shared β}

/-- A call that leaves a selector that holds the answer given. -/
structure Settles (inputs : shape.Value) (supply : Supply) (result : Shared β × Selector shape β)
    (after : Supply) : Prop where
  holds : result.2.Holds inputs result.1
  grows : supply.next ≤ after.next

/-- To hold an answer for inputs is to remember it for them. -/
theorem holds_iff : s.Holds inputs answer ↔ s.remembered? inputs = some answer :=
  remembered?_eq_some_iff.symm

theorem miss_settles (s : Selector shape β) (inputs : shape.Value) (value : β) (supply : Supply) :
    (do let answer ← allocate value
        pure (answer, s.miss inputs answer) : Allocating (Shared β × Selector shape β)).Ends supply
      (Settles inputs supply) :=
  ⟨holds_miss s inputs _, Nat.le_succ _⟩

theorem select_settles (s : Selector shape β) (inputs : shape.Value) (compute : shape.Value → β)
    (supply : Supply) : (s.select inputs compute).Ends supply (Settles inputs supply) := by
  rw [select_eq]
  cases found : s.remembered? inputs with
  | some answer => exact .pure ⟨holds_iff.2 found, Nat.le_refl _⟩
  | none => exact miss_settles s inputs _ supply

theorem selectReusingEqual_settles [BEq β] (s : Selector shape β) (inputs : shape.Value)
    (compute : shape.Value → β) (supply : Supply) :
    (s.selectReusingEqual inputs compute).Ends supply (Settles inputs supply) := by
  rw [selectReusingEqual_eq]
  cases found : s.remembered? inputs with
  | some answer => exact .pure ⟨holds_iff.2 found, Nat.le_refl _⟩
  | none =>
    rcases s.entry with _ | ⟨stored, answer⟩
    · exact miss_settles s inputs _ supply
    · by_cases equal : (answer.value == compute inputs) = true
      · simp only [equal, if_true]
        exact .pure ⟨holds_miss s inputs answer, Nat.le_refl _⟩
      · simp only [equal]
        exact miss_settles s inputs _ supply

namespace Holds

/-- **A call for inputs that an answer is held for is a hit**, and gives this answer. -/
theorem select_eq (holds : s.Holds inputs answer) (compute : shape.Value → β) :
    s.select inputs compute = pure (answer, s.hit) := by
  rw [Selector.select_eq, holds_iff.1 holds]

theorem selectReusingEqual_eq [BEq β] (holds : s.Holds inputs answer)
    (compute : shape.Value → β) : s.selectReusingEqual inputs compute = pure (answer, s.hit) := by
  rw [Selector.selectReusingEqual_eq, holds_iff.1 holds]

/-- A hit leaves what is held. -/
theorem hit (holds : s.Holds inputs answer) : s.hit.Holds inputs answer :=
  holds

end Holds

end WalletView.Selector
