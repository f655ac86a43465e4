/-
# Proofs.Memo.Memory — unchanged inputs read alike

Inputs that a program holds at one time lie in one memory, in which an allocation has one content.
So inputs that are *held in* a memory are coherent with all others held there
(`coherent_of_heldIn`), and those that are unchanged from others look like them once every slice is
read.  Being unchanged is an equivalence (`unchanged_equivalence`): a call that is compared with the
last miss alone is as good as compared with every hit since.
-/
import WalletView.Proofs.Memo.Dependency

set_option autoImplicit false

namespace WalletView

/-- What the allocations of every type hold. -/
abbrev Memory : Type 1 :=
  (α : Type) → (token : Nat) → Option α

namespace Dependency

theorem unchanged_equivalence (shape : Dependency) :
    Equivalence fun x y : shape.Value => shape.unchanged x y = true where
  refl := unchanged_refl shape
  symm same := unchanged_iff.2 (unchanged_iff.1 same).symm
  trans xy yz := unchanged_iff.2 ((unchanged_iff.1 xy).trans (unchanged_iff.1 yz))

/-- The memory holds every slice of the inputs. -/
def HeldIn (memory : Memory) : (shape : Dependency) → shape.Value → Prop
  | slice α, x => memory α x.token = some x.value
  | optional part, some x => part.HeldIn memory x
  | single a, x => a.HeldIn memory x
  | pair a b, (x, y) => a.HeldIn memory x ∧ b.HeldIn memory y
  | triple a b c, (x, y, z) => a.HeldIn memory x ∧ b.HeldIn memory y ∧ c.HeldIn memory z
  | quadruple a b c d, (x, y, z, u) =>
    a.HeldIn memory x ∧ b.HeldIn memory y ∧ c.HeldIn memory z ∧ d.HeldIn memory u
  | quintuple a b c d e, (x, y, z, u, v) =>
    a.HeldIn memory x ∧ b.HeldIn memory y ∧ c.HeldIn memory z ∧ d.HeldIn memory u
      ∧ e.HeldIn memory v
  | _, _ => True

/-- Inputs that one memory holds are coherent. -/
theorem coherent_of_heldIn {memory : Memory} {shape : Dependency} {x y : shape.Value}
    (heldX : shape.HeldIn memory x) (heldY : shape.HeldIn memory y) : shape.Coherent x y := by
  induction shape with
  | flag | word | size | text => trivial
  | slice α =>
    intro same
    have token : x.token = y.token := Shared.sameAs_iff.1 same
    have content : memory α x.token = some x.value := heldX
    rw [token, show memory α y.token = some y.value from heldY] at content
    cases x
    cases y
    cases token
    cases content
    rfl
  | optional part ih =>
    cases x with
    | none => trivial
    | some x =>
      cases y with
      | none => trivial
      | some y => exact ih heldX heldY
  | single a ih => exact ih heldX heldY
  | pair a b iha ihb => exact ⟨iha heldX.1 heldY.1, ihb heldX.2 heldY.2⟩
  | triple a b c iha ihb ihc =>
    obtain ⟨xa, xb, xc⟩ := heldX
    obtain ⟨ya, yb, yc⟩ := heldY
    exact ⟨iha xa ya, ihb xb yb, ihc xc yc⟩
  | quadruple a b c d iha ihb ihc ihd =>
    obtain ⟨xa, xb, xc, xd⟩ := heldX
    obtain ⟨ya, yb, yc, yd⟩ := heldY
    exact ⟨iha xa ya, ihb xb yb, ihc xc yc, ihd xd yd⟩
  | quintuple a b c d e iha ihb ihc ihd ihe =>
    obtain ⟨xa, xb, xc, xd, xe⟩ := heldX
    obtain ⟨ya, yb, yc, yd, ye⟩ := heldY
    exact ⟨iha xa ya, ihb xb yb, ihc xc yc, ihd xd yd, ihe xe ye⟩

/-- **Being unchanged is an equivalence, and a sound one.**  Whatever shape inputs have, if they are
held in one memory and the ones are unchanged from the others, they are the same inputs once every
slice is read, and everything that is computed from what is read is the same. -/
theorem unchanged_sound (shape : Dependency) :
    (Equivalence fun x y : shape.Value => shape.unchanged x y = true) ∧
    ∀ (memory : Memory) (x y : shape.Value), shape.HeldIn memory x → shape.HeldIn memory y →
      shape.unchanged x y = true →
        shape.read x = shape.read y ∧
        ∀ (β : Type) (compute : shape.Reading → β),
          compute (shape.read x) = compute (shape.read y) := by
  refine ⟨unchanged_equivalence shape, ?_⟩
  intro memory x y heldX heldY unchanged
  have same : x = y := eq_of_unchanged (coherent_of_heldIn heldX heldY) unchanged
  exact ⟨congrArg shape.read same, fun β compute => congrArg (compute ∘ shape.read) same⟩

/-- Two slices, one of them optional and in a tuple of its own, beside a text that is put together
anew, a word and a size. -/
theorem unchanged_sound_nested :
    let shape :=
      quintuple (slice (List Nat)) text word (optional (pair (slice (List Nat)) flag)) size
    let x : shape.Value := (⟨3, [3]⟩, "https://peepeth.com", 7, some (⟨4, [4]⟩, true), 0)
    let y : shape.Value := (⟨3, [3]⟩, "https://" ++ "peepeth.com", 7, some (⟨4, [4]⟩, true), 0)
    ∃ memory : Memory, shape.HeldIn memory x ∧ shape.HeldIn memory y ∧
      shape.unchanged x y = true ∧ shape.read x = shape.read y := by
  classical
  intro shape x y
  -- Every allocation is a list of its own token.
  let memory : Memory := fun α token =>
    if isList : List Nat = α then some (cast isList [token]) else none
  have content (token : Nat) : memory (List Nat) token = some [token] := dif_pos rfl
  have heldX : shape.HeldIn memory x := ⟨content 3, trivial, trivial, ⟨content 4, trivial⟩, trivial⟩
  have heldY : shape.HeldIn memory y := ⟨content 3, trivial, trivial, ⟨content 4, trivial⟩, trivial⟩
  have unchanged : shape.unchanged x y = true := by decide
  exact ⟨memory, heldX, heldY, unchanged,
    ((unchanged_sound shape).2 memory x y heldX heldY unchanged).1⟩

end Dependency

end WalletView
