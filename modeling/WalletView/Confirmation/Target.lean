/-
# Confirmation.Target — which queued request is meant

A route can name a request by its id; a name that is not in the queue means no request.  Without
a name, or with the empty one, the latest request is meant: the one with the greatest time, and
of several the one that came first.
-/
import WalletView.Wallet.Approval
import WalletView.Map.Id

set_option autoImplicit false

namespace WalletView

/-- The later of the best request so far and the next one; of two with one time, the former. -/
def laterApproval (best : Option PendingApproval) (next : PendingApproval) :
    Option PendingApproval :=
  match best with
  | some current => if next.time ≤ current.time then some current else some next
  | none => some next

/-- The request with the greatest time, the first of those. -/
def latestApproval (approvals : IdMap PendingApproval) : Option PendingApproval :=
  approvals.values.foldl laterApproval none

/-- The request that a route means. -/
def selectTarget (approvals : IdMap PendingApproval) (route : Option String) :
    Option PendingApproval :=
  match route with
  | some id => if id = "" then latestApproval approvals else approvals.get? id
  | none => latestApproval approvals

end WalletView
