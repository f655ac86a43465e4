/-
# Proofs.Memo.Shared — how a computation that allocates ends

`Allocating.Ends` says of a computation that it gives a result and leaves a supply of some kind.  A
computation in steps ends as its last step does, from what the steps before left (`Ends.bind`).  A
run of many computations is a fold over its steps, and keeps a history of them (`history_foldl`).
-/
import WalletView.Memo.Shared

set_option autoImplicit false

namespace WalletView

theorem Shared.sameAs_iff {α : Type} {a b : Shared α} : a.sameAs b = true ↔ a.token = b.token := by
  simp [Shared.sameAs]

namespace Allocating

variable {α β : Type}

/-- Run from a supply, the computation ends with a result and a supply that satisfy `post`. -/
def Ends (x : Allocating α) (supply : Supply) (post : α → Supply → Prop) : Prop :=
  post (x supply).1 (x supply).2

theorem pure_apply (a : α) (supply : Supply) :
    (Pure.pure a : Allocating α) supply = (a, supply) :=
  rfl

theorem bind_apply (x : Allocating α) (f : α → Allocating β) (supply : Supply) :
    (x >>= f) supply = f (x supply).1 (x supply).2 :=
  rfl

theorem Ends.pure {a : α} {supply : Supply} {post : α → Supply → Prop} (holds : post a supply) :
    Ends (Pure.pure a) supply post :=
  holds

theorem Ends.bind {x : Allocating α} {f : α → Allocating β} {supply : Supply}
    {mid : α → Supply → Prop} {post : β → Supply → Prop} (first : x.Ends supply mid)
    (more : ∀ a after, mid a after → (f a).Ends after post) : Ends (x >>= f) supply post :=
  more _ _ first

/-- A computation that starts with a known value ends as what is done with the value. -/
theorem Ends.bind_of_eq {x : Allocating α} {a : α} {f : α → Allocating β} {supply : Supply}
    {post : β → Supply → Prop} (known : x = Pure.pure a) (more : (f a).Ends supply post) :
    (x >>= f).Ends supply post := by
  rw [known]
  exact more

theorem Ends.imp {x : Allocating α} {supply : Supply} {post post' : α → Supply → Prop}
    (ends : x.Ends supply post) (imp : ∀ a after, post a after → post' a after) :
    x.Ends supply post' :=
  imp _ _ ends

theorem Ends.and {x : Allocating α} {supply : Supply} {post post' : α → Supply → Prop}
    (ends : x.Ends supply post) (ends' : x.Ends supply post') :
    x.Ends supply fun a after => post a after ∧ post' a after :=
  ⟨ends, ends'⟩

theorem allocate_ends (a : α) (supply : Supply) :
    (allocate a).Ends supply fun shared after =>
      shared = ⟨supply.next, a⟩ ∧ after.next = supply.next + 1 :=
  ⟨rfl, rfl⟩

end Allocating

/-! ## Runs -/

/-- Where each step adds to the history what is noted of it, if anything, the history of a run has
the notes of all its steps, the latest first. -/
theorem history_foldl {σ Step Note : Type} {next : σ → Step → σ} (history : σ → List Note)
    (noted : Step → Option Note)
    (adds : ∀ ran step, history (next ran step) = (noted step).toList ++ history ran)
    (steps : List Step) (ran : σ) :
    history (steps.foldl next ran) = (steps.filterMap noted).reverse ++ history ran := by
  induction steps generalizing ran with
  | nil => rfl
  | cons step more ih =>
    rw [List.foldl_cons, ih, adds, List.filterMap_cons]
    cases noted step with
    | none => rfl
    | some note => simp

end WalletView
