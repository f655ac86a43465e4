/-
# Proofs.Service.Basic — what a call of a service gives

A call of a service gives a result and the service that it leaves.  `Gives` says what is wanted of
both: the result is right, the service is still good, and no allocation was taken back.  Services
are good for the snapshots that were seen: what they remember was derived from those, and these
agree on the allocations that they share.
-/
import WalletView.Proofs.Memo.Selector
import WalletView.Proofs.Wallet.Sharing

set_option autoImplicit false

namespace WalletView

/-- A call from `supply` to `after` with a right result, after which the service is good. -/
structure Gives {α σ : Type} (right : α → Prop) (good : σ → Supply → Prop) (supply : Supply)
    (result : α × σ) (after : Supply) : Prop where
  right : right result.1
  good : good result.2 after
  grows : supply.next ≤ after.next

namespace Gives

variable {α β σ τ : Type} {right : α → Prop} {good : σ → Supply → Prop} {right' : β → Prop}
  {good' : τ → Supply → Prop} {supply : Supply}

/-- What is done after a call is judged by that the call gave what it should. -/
theorem bind {x : Allocating (α × σ)} {f : α × σ → Allocating (β × τ)}
    (first : x.Ends supply (Gives right good supply))
    (more : ∀ result after, Gives right good supply result after →
      (f result).Ends after (Gives right' good' after)) :
    (x >>= f).Ends supply (Gives right' good' supply) := by
  refine .bind first fun result after gives => ?_
  refine (more result after gives).imp fun result' after' gives' => ?_
  exact ⟨gives'.right, gives'.good, Nat.le_trans gives.grows gives'.grows⟩

end Gives

/-- Any two of the snapshots agree on the allocations that they share. -/
def AllAgree (seen : Snapshot Shared → Prop) : Prop :=
  ∀ s t, seen s → seen t → s.Agrees t

end WalletView
