/-
# Report.Basic — every view of one snapshot

A reporter holds the three services and evaluates all their views of a snapshot.  Accounts are
listed for the origin that is asked for, or else for the active tab's; without any origin both
lists are new and empty, and the services are not asked.
-/
import WalletView.Service.Confirmation
import WalletView.Service.Exposure
import WalletView.Service.Bridge

set_option autoImplicit false

namespace WalletView

/-- The views of one snapshot, held in the given way.  The trace carries a record as the snapshot
holds it, in its own allocation. -/
structure Report (Hold : Type → Type) where
  routeId : Option String
  origin : Option Origin
  latestApproval : Option PendingApproval
  currentConfirmation : Hold (ResolutionTrace Shared)
  permittedAccounts : Hold (List Address)
  orderedAccounts : Hold (List AccountRecord)
  lastConnectedInfo : Hold LastConnectedInfo
  tabPermissions : Hold (List PermissionEntry)
  connectedSubjects : Hold (List ConnectedSubject)
  sourceChain : ChainId
  destinationChain : Option ChainId
  bridge : Hold BridgeEligibility

/-- The three services. -/
structure Reporter where
  resolver : ConfirmationResolver
  ordering : AccountOrderingService
  bridge : BridgeEligibilityService

namespace Reporter

/-- A reporter with given configurations that remembers nothing yet. -/
def configured (resolver : ResolverConfig) (ordering : OrderingConfig) : Reporter :=
  ⟨.new resolver, .new ordering, .new⟩

/-- A reporter with the standard configurations that remembers nothing yet. -/
def new : Reporter :=
  configured .standard .standard

/-- The addresses an origin may see and the accounts it sees; nothing for no origin. -/
def accountsFor (ordering : AccountOrderingService) (s : Snapshot Shared) (origin : Option Origin) :
    Allocating ((Shared (List Address) × Shared (List AccountRecord)) × AccountOrderingService) :=
  match origin with
  | some origin => do
    let (permitted, ordering) ← ordering.permittedAccounts s origin
    let (ordered, ordering) ← ordering.orderedAccounts s origin
    return ((permitted, ordered), ordering)
  | none => do
    let permitted ← allocate []
    let ordered ← allocate []
    return ((permitted, ordered), ordering)

/-- Evaluates every view of a snapshot. -/
def report (r : Reporter) (s : Snapshot Shared) (route : Option String) (origin : Option Origin) :
    Allocating (Report Shared × Reporter) := do
  let origin := origin <|> s.activeOrigin?
  let ((permittedAccounts, orderedAccounts), ordering) ← accountsFor r.ordering s origin
  let (latestApproval, resolver) ← r.resolver.latestApproval s
  let (currentConfirmation, resolver) ← resolver.explain s route
  let (lastConnectedInfo, ordering) ← ordering.lastConnectedInfo s
  let (tabPermissions, ordering) ← ordering.permissionsForTab s
  let (connectedSubjects, ordering) ← ordering.connectionsOfSelected s
  let (eligibility, bridge) ← r.bridge.explain s
  return (
    { routeId := route, origin, latestApproval, currentConfirmation, permittedAccounts,
      orderedAccounts, lastConnectedInfo, tabPermissions, connectedSubjects,
      sourceChain := s.sourceChain.chainId,
      destinationChain := s.destinationChain?.map ProviderConfig.chainId,
      bridge := eligibility },
    { resolver, ordering, bridge })

end Reporter

end WalletView
