/-
# Proofs.Memo.Dependency — unchanged inputs are the same inputs

A memory compares slices by their tokens alone.  What it compares of inputs is their *identity*,
in which every slice is its token: `unchanged_iff` says that inputs are unchanged when they have
one identity, so that being unchanged is an equivalence.

To compare tokens is enough where one allocation never has two contents: inputs are *coherent*
when each slice of the one and the slice in its place in the other are equal as soon as they are
one allocation.  `eq_of_unchanged`: coherent inputs that are unchanged are equal, whatever their
shape, and so is every value computed from them.
-/
import WalletView.Proofs.Memo.Shared
import WalletView.Memo.Dependency

set_option autoImplicit false

namespace WalletView

namespace Dependency

/-! ## Identity -/

/-- What is compared of the inputs of a shape. -/
abbrev Identity : Dependency → Type
  | flag => Bool
  | word => UInt64
  | size => Nat
  | text => String
  | slice _ => Nat
  | optional part => Option part.Identity
  | single a => a.Identity
  | pair a b => a.Identity × b.Identity
  | triple a b c => a.Identity × b.Identity × c.Identity
  | quadruple a b c d => a.Identity × b.Identity × c.Identity × d.Identity
  | quintuple a b c d e => a.Identity × b.Identity × c.Identity × d.Identity × e.Identity

/-- The inputs with the token of every slice in its place. -/
def identity : (shape : Dependency) → shape.Value → shape.Identity
  | flag, b => b
  | word, w => w
  | size, n => n
  | text, s => s
  | slice _, x => x.token
  | optional _, none => none
  | optional part, some x => some (part.identity x)
  | single a, x => a.identity x
  | pair a b, (x, y) => (a.identity x, b.identity y)
  | triple a b c, (x, y, z) => (a.identity x, b.identity y, c.identity z)
  | quadruple a b c d, (x, y, z, u) => (a.identity x, b.identity y, c.identity z, d.identity u)
  | quintuple a b c d e, (x, y, z, u, v) =>
    (a.identity x, b.identity y, c.identity z, d.identity u, e.identity v)

theorem identity_optional_text (x : Option String) : (optional text).identity x = x := by
  cases x <;> rfl

/-- **Inputs are unchanged when they have one identity.** -/
theorem unchanged_iff {shape : Dependency} {x y : shape.Value} :
    shape.unchanged x y = true ↔ shape.identity x = shape.identity y := by
  induction shape with
  | flag | word | size | text => exact beq_iff_eq
  | slice α => exact Shared.sameAs_iff
  | optional part ih => cases x <;> cases y <;> simp [Dependency.unchanged, identity, ih]
  | single a ih => exact ih
  | pair a b iha ihb => simp [Dependency.unchanged, identity, iha, ihb]
  | triple a b c iha ihb ihc => simp [Dependency.unchanged, identity, iha, ihb, ihc, and_assoc]
  | quadruple a b c d iha ihb ihc ihd =>
    simp [Dependency.unchanged, identity, iha, ihb, ihc, ihd, and_assoc]
  | quintuple a b c d e iha ihb ihc ihd ihe =>
    simp [Dependency.unchanged, identity, iha, ihb, ihc, ihd, ihe, and_assoc]

@[simp] theorem unchanged_refl (shape : Dependency) (x : shape.Value) :
    shape.unchanged x x = true :=
  unchanged_iff.2 rfl

/-- Unchanged inputs are unchanged from the same inputs. -/
theorem unchanged_congr {shape : Dependency} {x y : shape.Value}
    (same : shape.unchanged x y = true) (z : shape.Value) :
    shape.unchanged z x = shape.unchanged z y := by
  rw [Bool.eq_iff_iff, unchanged_iff, unchanged_iff, unchanged_iff.1 same]

/-! ## Coherence -/

/-- Slices in one place that are one allocation have one content. -/
def Coherent : (shape : Dependency) → (x y : shape.Value) → Prop
  | slice _, x, y => x.sameAs y = true → x = y
  | optional part, some x, some y => part.Coherent x y
  | single a, x, y => a.Coherent x y
  | pair a b, (x, y), (x', y') => a.Coherent x x' ∧ b.Coherent y y'
  | triple a b c, (x, y, z), (x', y', z') => a.Coherent x x' ∧ b.Coherent y y' ∧ c.Coherent z z'
  | quadruple a b c d, (x, y, z, u), (x', y', z', u') =>
    a.Coherent x x' ∧ b.Coherent y y' ∧ c.Coherent z z' ∧ d.Coherent u u'
  | quintuple a b c d e, (x, y, z, u, v), (x', y', z', u', v') =>
    a.Coherent x x' ∧ b.Coherent y y' ∧ c.Coherent z z' ∧ d.Coherent u u' ∧ e.Coherent v v'
  | _, _, _ => True

theorem coherent_optional_text (x y : Option String) : (optional text).Coherent x y := by
  cases x <;> cases y <;> trivial

/-- **Unchanged inputs are the same inputs**, if no allocation among them has two contents. -/
theorem eq_of_unchanged {shape : Dependency} {x y : shape.Value} (coherent : shape.Coherent x y)
    (unchanged : shape.unchanged x y = true) : x = y := by
  induction shape with
  | flag | word | size | text => simpa [Dependency.unchanged] using unchanged
  | slice α => exact coherent unchanged
  | optional part ih =>
    cases x <;> cases y <;> simp only [Dependency.unchanged, Bool.false_eq_true] at unchanged
    · rfl
    · rw [ih coherent unchanged]
  | single a ih => exact ih coherent unchanged
  | pair a b iha ihb =>
    simp only [Dependency.unchanged, Bool.and_eq_true] at unchanged
    rw [Prod.ext_iff]
    exact ⟨iha coherent.1 unchanged.1, ihb coherent.2 unchanged.2⟩
  | triple a b c iha ihb ihc =>
    simp only [Dependency.unchanged, Bool.and_eq_true] at unchanged
    obtain ⟨⟨ha, hb⟩, hc⟩ := unchanged
    simp only [Prod.ext_iff]
    exact ⟨iha coherent.1 ha, ihb coherent.2.1 hb, ihc coherent.2.2 hc⟩
  | quadruple a b c d iha ihb ihc ihd =>
    simp only [Dependency.unchanged, Bool.and_eq_true] at unchanged
    obtain ⟨⟨⟨ha, hb⟩, hc⟩, hd⟩ := unchanged
    simp only [Prod.ext_iff]
    exact ⟨iha coherent.1 ha, ihb coherent.2.1 hb, ihc coherent.2.2.1 hc, ihd coherent.2.2.2 hd⟩
  | quintuple a b c d e iha ihb ihc ihd ihe =>
    simp only [Dependency.unchanged, Bool.and_eq_true] at unchanged
    obtain ⟨⟨⟨⟨ha, hb⟩, hc⟩, hd⟩, he⟩ := unchanged
    simp only [Prod.ext_iff]
    exact ⟨iha coherent.1 ha, ihb coherent.2.1 hb, ihc coherent.2.2.1 hc, ihd coherent.2.2.2.1 hd,
      ihe coherent.2.2.2.2 he⟩

end Dependency

end WalletView
