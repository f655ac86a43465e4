/-
# Report.Query — asking a reporter, one question after another

A query names one view of a snapshot, or the report of all of them.  A reporter answers it from
what its services remember, and remembers more.  The same query has a *direct* answer, derived
from the values of the snapshot with no memory at all.
-/
import WalletView.Report.Basic

set_option autoImplicit false

namespace WalletView

/-- What a reporter can be asked about a snapshot. -/
inductive Query where
  | report (route : Option String) (origin : Option Origin)
  | explain (route : Option String)
  | currentConfirmation (route : Option String)
  | latestApproval
  | permittedAccounts (origin : Origin)
  | orderedAccounts (origin : Origin)
  | orderedAccountsForTab
  | lastConnectedInfo
  | permissionsForTab
  | connectionsOfSelected
  | explainBridge
  | isBridgeTransaction
deriving DecidableEq, Repr

/-- What a query gives, held in the given way. -/
inductive Answer (Hold : Type → Type) where
  | report (report : Report Hold)
  | trace (trace : Hold (ResolutionTrace Shared))
  | confirmation (confirmation : Option (Confirmation Shared))
  | approval (approval : Option PendingApproval)
  | addresses (addresses : Hold (List Address))
  | accounts (accounts : Hold (List AccountRecord))
  | lastConnected (info : Hold LastConnectedInfo)
  | permissions (entries : Hold (List PermissionEntry))
  | connections (sites : Hold (List ConnectedSubject))
  | eligibility (eligibility : Hold BridgeEligibility)
  | isBridge (used : Bool)

section Held

variable {Hold : Type → Type} [Holding Hold]

/-- The values of a report. -/
def Report.values (r : Report Hold) : Report Plain where
  routeId := r.routeId
  origin := r.origin
  latestApproval := r.latestApproval
  currentConfirmation := Holding.value r.currentConfirmation
  permittedAccounts := Holding.value r.permittedAccounts
  orderedAccounts := Holding.value r.orderedAccounts
  lastConnectedInfo := Holding.value r.lastConnectedInfo
  tabPermissions := Holding.value r.tabPermissions
  connectedSubjects := Holding.value r.connectedSubjects
  sourceChain := r.sourceChain
  destinationChain := r.destinationChain
  bridge := Holding.value r.bridge

/-- The values of an answer. -/
def Answer.values : Answer Hold → Answer Plain
  | report r => .report r.values
  | trace t => .trace (Holding.value t)
  | confirmation c => .confirmation c
  | approval a => .approval a
  | addresses a => .addresses (Holding.value a)
  | accounts a => .accounts (Holding.value a)
  | lastConnected i => .lastConnected (Holding.value i)
  | permissions e => .permissions (Holding.value e)
  | connections c => .connections (Holding.value c)
  | eligibility e => .eligibility (Holding.value e)
  | isBridge b => .isBridge b

end Held

/-! ## Remembered answers -/

namespace Reporter

/-- Answers a query about a snapshot. -/
def ask (r : Reporter) (s : Snapshot Shared) :
    Query → Allocating (Answer Shared × Reporter)
  | .report route origin => do
    let (report, r) ← r.report s route origin
    return (.report report, r)
  | .explain route => do
    let (trace, resolver) ← r.resolver.explain s route
    return (.trace trace, { r with resolver })
  | .currentConfirmation route => do
    let (confirmation, resolver) ← r.resolver.currentConfirmation s route
    return (.confirmation confirmation, { r with resolver })
  | .latestApproval => do
    let (approval, resolver) ← r.resolver.latestApproval s
    return (.approval approval, { r with resolver })
  | .permittedAccounts origin => do
    let (addresses, ordering) ← r.ordering.permittedAccounts s origin
    return (.addresses addresses, { r with ordering })
  | .orderedAccounts origin => do
    let (accounts, ordering) ← r.ordering.orderedAccounts s origin
    return (.accounts accounts, { r with ordering })
  | .orderedAccountsForTab => do
    let (accounts, ordering) ← r.ordering.orderedAccountsForTab s
    return (.accounts accounts, { r with ordering })
  | .lastConnectedInfo => do
    let (info, ordering) ← r.ordering.lastConnectedInfo s
    return (.lastConnected info, { r with ordering })
  | .permissionsForTab => do
    let (entries, ordering) ← r.ordering.permissionsForTab s
    return (.permissions entries, { r with ordering })
  | .connectionsOfSelected => do
    let (sites, ordering) ← r.ordering.connectionsOfSelected s
    return (.connections sites, { r with ordering })
  | .explainBridge => do
    let (eligibility, bridge) ← r.bridge.explain s
    return (.eligibility eligibility, { r with bridge })
  | .isBridgeTransaction => do
    let (used, bridge) ← r.bridge.isBridgeTransaction s
    return (.isBridge used, { r with bridge })

/-- Answers one query after another, each about a snapshot of its own. -/
def askAll (r : Reporter) :
    List (Snapshot Shared × Query) → Allocating (List (Answer Shared) × Reporter)
  | [] => return ([], r)
  | (s, query) :: more => do
    let (answer, r) ← r.ask s query
    let (answers, r) ← r.askAll more
    return (answer :: answers, r)

end Reporter

/-! ## Direct answers -/

namespace Snapshot

variable (s : Snapshot Shared)

/-- The accounts an origin sees, in order. -/
def orderedAccounts (origin : Origin) (config : OrderingConfig) : List AccountRecord :=
  orderConnectedAccounts
    { permitted := permittedAccounts s.subjects.value origin config,
      accounts := s.internalAccounts.value, keyrings := s.keyrings.value,
      history := s.permissionHistory.value } origin config

/-- The sites that may see the selected account; none if no account is selected. -/
def connectionsOfSelected (config : OrderingConfig) : List ConnectedSubject :=
  match s.internalAccounts.value.selected? with
  | some account =>
    connectedSubjects s.subjects.value s.subjectMetadata.value account.address config
  | none => []

/-- Whether a bridge is used, or why not. -/
def bridgeEligibility : BridgeEligibility :=
  evaluateBridge s.sourceChain s.destinationChain? s.featureFlags.value

/-- Every view of the snapshot. -/
def report (resolver : ResolverConfig) (ordering : OrderingConfig) (route : Option String)
    (origin : Option Origin) : Report Plain :=
  let origin := origin <|> s.activeOrigin?
  { routeId := route
    origin
    latestApproval := latestApproval s.pendingApprovals.value
    currentConfirmation := resolve s route resolver
    permittedAccounts := origin.elim [] (permittedAccounts s.subjects.value · ordering)
    orderedAccounts := origin.elim [] (s.orderedAccounts · ordering)
    lastConnectedInfo := lastConnectedInfo s.permissionHistory.value ordering
    tabPermissions := permissionsForOrigin s.subjects.value (s.activeOrigin?.getD "")
    connectedSubjects := s.connectionsOfSelected ordering
    sourceChain := s.sourceChain.chainId
    destinationChain := s.destinationChain?.map ProviderConfig.chainId
    bridge := s.bridgeEligibility }

/-- The answer to a query about the snapshot. -/
def answer (resolver : ResolverConfig) (ordering : OrderingConfig) : Query → Answer Plain
  | .report route origin => .report (s.report resolver ordering route origin)
  | .explain route => .trace (resolve s route resolver)
  | .currentConfirmation route => .confirmation (resolve s route resolver).confirmation
  | .latestApproval => .approval (latestApproval s.pendingApprovals.value)
  | .permittedAccounts origin => .addresses (permittedAccounts s.subjects.value origin ordering)
  | .orderedAccounts origin => .accounts (s.orderedAccounts origin ordering)
  | .orderedAccountsForTab => .accounts (s.orderedAccounts (s.activeOrigin?.getD "") ordering)
  | .lastConnectedInfo => .lastConnected (lastConnectedInfo s.permissionHistory.value ordering)
  | .permissionsForTab =>
    .permissions (permissionsForOrigin s.subjects.value (s.activeOrigin?.getD ""))
  | .connectionsOfSelected => .connections (s.connectionsOfSelected ordering)
  | .explainBridge => .eligibility s.bridgeEligibility
  | .isBridgeTransaction => .isBridge s.bridgeEligibility.isEligible

end Snapshot

end WalletView
