/-
# Proofs.Report.Run — the services, called one after another

The services give seven of their views in allocations: a `Call` asks for one of them, and is
answered with the allocation that the view is in.  A run calls the services in any order and about
any snapshots.  In between the latest request may be asked for, which is given as a plain value, and
allocations are made elsewhere.  The history of a run has the calls, the latest first.

Whatever a reporter is asked, it comes to such a run (`foldl_steps`).
-/
import WalletView.Report.Query
import WalletView.Proofs.Memo.Shared

set_option autoImplicit false

namespace WalletView.Reporter

/-- A view that the services give in an allocation. -/
inductive Method where
  | explain
  | permittedAccounts
  | orderedAccounts
  | lastConnectedInfo
  | permissionsForTab
  | connectionsOfSelected
  | explainBridge
deriving DecidableEq, Repr

/-- A view and, for some, what is asked beside the snapshot. -/
inductive Call where
  | explain (route : Option String)
  | permittedAccounts (origin : Origin)
  | orderedAccounts (origin : Origin)
  | lastConnectedInfo
  | permissionsForTab
  | connectionsOfSelected
  | explainBridge
deriving DecidableEq, Repr

namespace Call

def method : Call → Method
  | explain _ => .explain
  | permittedAccounts _ => .permittedAccounts
  | orderedAccounts _ => .orderedAccounts
  | lastConnectedInfo => .lastConnectedInfo
  | permissionsForTab => .permissionsForTab
  | connectionsOfSelected => .connectionsOfSelected
  | explainBridge => .explainBridge

/-- The allocation that a call is answered with, and the reporter that it leaves. -/
def make (r : Reporter) (s : Snapshot Shared) : Call → Allocating (Nat × Reporter)
  | explain route => do
    let (trace, resolver) ← r.resolver.explain s route
    return (trace.token, { r with resolver })
  | permittedAccounts origin => do
    let (addresses, ordering) ← r.ordering.permittedAccounts s origin
    return (addresses.token, { r with ordering })
  | orderedAccounts origin => do
    let (accounts, ordering) ← r.ordering.orderedAccounts s origin
    return (accounts.token, { r with ordering })
  | lastConnectedInfo => do
    let (info, ordering) ← r.ordering.lastConnectedInfo s
    return (info.token, { r with ordering })
  | permissionsForTab => do
    let (entries, ordering) ← r.ordering.permissionsForTab s
    return (entries.token, { r with ordering })
  | connectionsOfSelected => do
    let (sites, ordering) ← r.ordering.connectionsOfSelected s
    return (sites.token, { r with ordering })
  | explainBridge => do
    let (eligibility, bridge) ← r.bridge.explain s
    return (eligibility.token, { r with bridge })

end Call

/-- What happens in a run. -/
inductive Step where
  | call (s : Snapshot Shared) (call : Call)
  | latestApproval (s : Snapshot Shared)
  | allocate (count : Nat)

/-- The snapshot that a step is about. -/
def Step.snapshot? : Step → Option (Snapshot Shared)
  | call s _ => some s
  | latestApproval s => some s
  | allocate _ => none

/-- The call that a step makes. -/
def Step.call? : Step → Option (Snapshot Shared × Call)
  | call s asked => some (s, asked)
  | latestApproval _ => none
  | allocate _ => none

/-- A call that was made and the allocation that it was answered with. -/
structure Event where
  snapshot : Snapshot Shared
  call : Call
  allocation : Nat

/-- A reporter after some steps, with its history, the latest call first. -/
structure Ran where
  history : List Event
  reporter : Reporter
  supply : Supply

/-- One more step. -/
def Ran.next (ran : Ran) : Step → Ran
  | .call s call =>
    let result := call.make ran.reporter s ran.supply
    ⟨⟨s, call, result.1.1⟩ :: ran.history, result.1.2, result.2⟩
  | .latestApproval s =>
    let result := ran.reporter.resolver.latestApproval s ran.supply
    ⟨ran.history, { ran.reporter with resolver := result.1.2 }, result.2⟩
  | .allocate count => ⟨ran.history, ran.reporter, ⟨ran.supply.next + count⟩⟩

/-- A new reporter after some steps, one after another. -/
def run (resolver : ResolverConfig) (ordering : OrderingConfig) (start : Supply)
    (steps : List Step) : Ran :=
  steps.foldl Ran.next ⟨[], configured resolver ordering, start⟩

/-- The history has the calls of the steps. -/
theorem map_foldl_next (steps : List Step) (ran : Ran) :
    (steps.foldl Ran.next ran).history.map (fun e => (e.snapshot, e.call)) =
      (steps.filterMap Step.call?).reverse ++ ran.history.map fun e => (e.snapshot, e.call) := by
  refine history_foldl (fun ran : Ran => ran.history.map fun e => (e.snapshot, e.call)) Step.call?
    (fun ran step => ?_) steps ran
  cases step <;> rfl

/-! ## Queries -/

/-- The steps that answer a query. -/
def Query.steps (s : Snapshot Shared) : Query → List Step
  | .report route origin =>
    let lists : List Step :=
      match origin <|> s.activeOrigin? with
      | some origin => [.call s (.permittedAccounts origin), .call s (.orderedAccounts origin)]
      | none => [.allocate 2]
    lists ++ [.latestApproval s, .call s (.explain route), .call s .lastConnectedInfo,
      .call s .permissionsForTab, .call s .connectionsOfSelected, .call s .explainBridge]
  | .explain route => [.call s (.explain route)]
  | .currentConfirmation route => [.call s (.explain route)]
  | .latestApproval => [.latestApproval s]
  | .permittedAccounts origin => [.call s (.permittedAccounts origin)]
  | .orderedAccounts origin => [.call s (.orderedAccounts origin)]
  | .orderedAccountsForTab => [.call s (.orderedAccounts (s.activeOrigin?.getD ""))]
  | .lastConnectedInfo => [.call s .lastConnectedInfo]
  | .permissionsForTab => [.call s .permissionsForTab]
  | .connectionsOfSelected => [.call s .connectionsOfSelected]
  | .explainBridge => [.call s .explainBridge]
  | .isBridgeTransaction => [.call s .explainBridge]

/-- Answering a query leaves what its steps leave. -/
theorem foldl_steps (history : List Event) (r : Reporter) (s : Snapshot Shared) (query : Query)
    (supply : Supply) :
    let ran := (Query.steps s query).foldl Ran.next ⟨history, r, supply⟩
    (ran.reporter, ran.supply) = ((r.ask s query supply).1.2, (r.ask s query supply).2) := by
  cases query with
  | report route origin =>
    simp only [Query.steps, ask, report]
    cases (origin <|> s.activeOrigin?) <;>
      simp only [List.cons_append, List.nil_append, List.foldl_cons, List.foldl_nil, Ran.next,
        Call.make, accountsFor, Allocating.bind_apply, Allocating.pure_apply, allocate]
  | _ => rfl

end WalletView.Reporter
