/-
# Memo.Selector — a derivation that remembers its last answer

A selector keeps one entry: the inputs of its last call and the allocation of the answer.  A
call with unchanged inputs is a *hit* and gives that very allocation.  Any other call is a
*miss*: the answer is computed from the call's own inputs, and entry and inputs are replaced.
The answer of a miss is a new allocation, except that `selectReusingEqual` keeps the old one
when the old answer equals the new.
-/
import WalletView.Memo.Dependency
import WalletView.Text.Quoted

set_option autoImplicit false

namespace WalletView

/-- A derivation with inputs of a shape, an entry for its last answer, and how often it was
answered from the entry or computed anew since it was last reset. -/
structure Selector (shape : Dependency) (β : Type) where
  name : String
  entry : Option (shape.Value × Shared β)
  hits : UInt64
  recomputations : UInt64

namespace Selector

variable {shape : Dependency} {β : Type}

/-- A selector that has not been called. -/
def new (name : String) : Selector shape β :=
  ⟨name, none, 0, 0⟩

/-- The remembered answer, if it was given for unchanged inputs. -/
def remembered? (s : Selector shape β) (inputs : shape.Value) : Option (Shared β) :=
  match s.entry with
  | some (previous, answer) => if shape.unchanged inputs previous then some answer else none
  | none => none

/-- The selector after a hit. -/
def hit (s : Selector shape β) : Selector shape β :=
  { s with hits := s.hits + 1 }

/-- The selector after a miss with the given inputs and answer. -/
def miss (s : Selector shape β) (inputs : shape.Value) (answer : Shared β) : Selector shape β :=
  { s with entry := some (inputs, answer), recomputations := s.recomputations + 1 }

/-- The answer for some inputs, and the selector that remembers it.  To compute an answer may have
effects of its own. -/
def selectBy {m : Type → Type} [Monad m] (s : Selector shape β) (inputs : shape.Value)
    (compute : shape.Value → m β) : StateT Supply m (Shared β × Selector shape β) :=
  match s.remembered? inputs with
  | some answer => pure (answer, s.hit)
  | none => do
    let computed ← compute inputs
    let answer ← modifyGet (allocate computed)
    pure (answer, s.miss inputs answer)

/-- The same, but a computed answer that equals the remembered one gives its allocation. -/
def selectReusingEqualBy {m : Type → Type} [Monad m] [BEq β] (s : Selector shape β)
    (inputs : shape.Value) (compute : shape.Value → m β) :
    StateT Supply m (Shared β × Selector shape β) :=
  match s.remembered? inputs with
  | some answer => pure (answer, s.hit)
  | none => do
    let computed ← compute inputs
    match s.entry with
    | some (_, answer) =>
      if answer.value == computed then pure (answer, s.miss inputs answer)
      else do
        let answer ← modifyGet (allocate computed)
        pure (answer, s.miss inputs answer)
    | none => do
      let answer ← modifyGet (allocate computed)
      pure (answer, s.miss inputs answer)

/-- The answer for some inputs where to compute one has no effects. -/
def select (s : Selector shape β) (inputs : shape.Value) (compute : shape.Value → β) :
    Allocating (Shared β × Selector shape β) :=
  s.selectBy inputs fun inputs => (pure (compute inputs) : Id β)

/-- The same, but a computed answer that equals the remembered one gives its allocation. -/
def selectReusingEqual [BEq β] (s : Selector shape β) (inputs : shape.Value)
    (compute : shape.Value → β) : Allocating (Shared β × Selector shape β) :=
  s.selectReusingEqualBy inputs fun inputs => (pure (compute inputs) : Id β)

/-- The selector without its entry and with its counts at zero. -/
def reset (s : Selector shape β) : Selector shape β :=
  new s.name

/-- How often the selector was answered from its entry, and how often computed anew. -/
def stats (s : Selector shape β) : UInt64 × UInt64 :=
  (s.hits, s.recomputations)

/-- A line about the selector: its name and its counts. -/
def describe (s : Selector shape β) : String :=
  "Selector \x7b name: " ++ Text.quoted s.name ++ ", hits: " ++ toString s.hits.toNat
    ++ ", recomputations: " ++ toString s.recomputations.toNat ++ " \x7d"

end Selector

end WalletView
