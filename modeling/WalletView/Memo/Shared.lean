/-
# Memo.Shared — values and the allocations that hold them

A derivation looks only at values, but its memory compares its inputs by *identity*: whether
they are the same allocation, not whether they look alike.  A `Shared` value is a value together
with the token of its allocation; tokens are handed out by a `Supply`, each once.

`Holding` is what both have in common: a value can be read from a plain holder, which is the
value itself, and from a shared one.  A snapshot is described once for all holders.
-/

set_option autoImplicit false

namespace WalletView

/-- A value in an allocation of its own. -/
structure Shared (α : Type) where
  token : Nat
  value : α
deriving DecidableEq, Repr, Inhabited

/-- Whether two are one allocation. -/
def Shared.sameAs {α : Type} (a b : Shared α) : Bool :=
  a.token == b.token

/-- A value held by nothing but itself. -/
abbrev Plain (α : Type) : Type := α

/-- Holders that a value can be read from. -/
class Holding (Hold : Type → Type) where
  value {α : Type} : Hold α → α

instance : Holding Plain := ⟨fun a => a⟩

instance : Holding Shared := ⟨Shared.value⟩

/-- Where new allocations come from: the first token not handed out yet. -/
structure Supply where
  next : Nat
deriving DecidableEq, Repr, Inhabited

/-- A computation that may allocate. -/
abbrev Allocating (α : Type) := StateM Supply α

/-- Puts a value into a new allocation. -/
def allocate {α : Type} (a : α) : Allocating (Shared α) :=
  fun supply => (⟨supply.next, a⟩, ⟨supply.next + 1⟩)

/-- Puts each of the values into a new allocation. -/
def allocateAll {α : Type} (values : List α) : Allocating (List (Shared α)) :=
  fun supply =>
    (values.mapIdx fun i a => ⟨supply.next + i, a⟩, ⟨supply.next + values.length⟩)

end WalletView
