/-
# Service.Exposure — exposed accounts and summaries, remembered

Five selectors.  The allow-list of an origin depends on the subjects; a list that comes out equal
to the one before keeps its allocation, so that a change to another site's subject does not make
the order be computed again.  The order depends on that allow-list, the accounts, the keyrings,
the history and the origin.  The summaries depend on the slices they are taken from.

The checks that debug builds assert of an order when it is computed are left to `Exposure.Checks`.
-/
import WalletView.Exposure.Ordering
import WalletView.Exposure.Summaries
import WalletView.Wallet.Snapshot
import WalletView.Memo.Selector

set_option autoImplicit false

namespace WalletView

/-- What concerns one origin's subject. -/
abbrev subjectInputs : Dependency :=
  .pair (.slice (IdMap Subject)) .text

/-- What the order of an origin's accounts depends on. -/
abbrev orderInputs : Dependency :=
  .quintuple (.slice (List Address)) (.slice InternalAccounts) (.slice (List KeyringGroup))
    (.slice PermissionHistory) .text

/-- What the accounts last shown depend on. -/
abbrev historyInputs : Dependency :=
  .slice PermissionHistory

/-- What the sites connected to the selected account depend on. -/
abbrev connectionInputs : Dependency :=
  .triple (.slice (IdMap Subject)) (.slice (IdMap SubjectMetadata)) (.slice InternalAccounts)

/-- The views of exposed accounts and what they remember. -/
structure AccountOrderingService where
  config : OrderingConfig
  permitted : Selector subjectInputs (List Address)
  ordered : Selector orderInputs (List AccountRecord)
  lastConnected : Selector historyInputs LastConnectedInfo
  tabPermissions : Selector subjectInputs (List PermissionEntry)
  connectedSubjects : Selector connectionInputs (List ConnectedSubject)

namespace AccountOrderingService

/-- A service that remembers nothing yet. -/
def new (config : OrderingConfig) : AccountOrderingService where
  config
  permitted := .new "permitted_accounts"
  ordered := .new "ordered_connected_accounts"
  lastConnected := .new "last_connected_info"
  tabPermissions := .new "permissions_for_active_tab"
  connectedSubjects := .new "connected_subjects_for_selected_address"

/-- Orders accounts by what their order depends on. -/
def computeOrder (config : OrderingConfig) (inputs : orderInputs.Value) : List AccountRecord :=
  let (permitted, accounts, keyrings, history, origin) := inputs
  orderConnectedAccounts
    { permitted := permitted.value, accounts := accounts.value, keyrings := keyrings.value,
      history := history.value } origin config

/-- The sites connected to the selected account; none if no account is selected. -/
def computeConnections (config : OrderingConfig) (inputs : connectionInputs.Value) :
    List ConnectedSubject :=
  let (subjects, metadata, accounts) := inputs
  match accounts.value.selected? with
  | some account => WalletView.connectedSubjects subjects.value metadata.value account.address config
  | none => []

/-- The addresses an origin may see. -/
def permittedAccounts (a : AccountOrderingService) (s : Snapshot Shared) (origin : Origin) :
    Allocating (Shared (List Address) × AccountOrderingService) := do
  let (addresses, permitted) ← a.permitted.selectReusingEqual (s.subjects, origin)
    fun (subjects, origin) => WalletView.permittedAccounts subjects.value origin a.config
  return (addresses, { a with permitted })

/-- The accounts an origin sees, in order. -/
def orderedAccounts (a : AccountOrderingService) (s : Snapshot Shared) (origin : Origin) :
    Allocating (Shared (List AccountRecord) × AccountOrderingService) := do
  let (addresses, a) ← a.permittedAccounts s origin
  let (accounts, ordered) ← a.ordered.select
    (addresses, s.internalAccounts, s.keyrings, s.permissionHistory, origin)
    (computeOrder a.config)
  return (accounts, { a with ordered })

/-- The accounts the active tab sees, in order; a tab without an origin counts as the empty
origin. -/
def orderedAccountsForTab (a : AccountOrderingService) (s : Snapshot Shared) :
    Allocating (Shared (List AccountRecord) × AccountOrderingService) :=
  a.orderedAccounts s (s.activeOrigin?.getD "")

/-- The accounts last shown to each site. -/
def lastConnectedInfo (a : AccountOrderingService) (s : Snapshot Shared) :
    Allocating (Shared LastConnectedInfo × AccountOrderingService) := do
  let (info, lastConnected) ← a.lastConnected.select s.permissionHistory
    fun history => WalletView.lastConnectedInfo history.value a.config
  return (info, { a with lastConnected })

/-- The capabilities of the active tab's site. -/
def permissionsForTab (a : AccountOrderingService) (s : Snapshot Shared) :
    Allocating (Shared (List PermissionEntry) × AccountOrderingService) := do
  let (entries, tabPermissions) ← a.tabPermissions.select
    (s.subjects, s.activeOrigin?.getD "")
    fun (subjects, origin) => permissionsForOrigin subjects.value origin
  return (entries, { a with tabPermissions })

/-- The sites that may see the selected account. -/
def connectionsOfSelected (a : AccountOrderingService) (s : Snapshot Shared) :
    Allocating (Shared (List ConnectedSubject) × AccountOrderingService) := do
  let (sites, connectedSubjects) ← a.connectedSubjects.select
    (s.subjects, s.subjectMetadata, s.internalAccounts) (computeConnections a.config)
  return (sites, { a with connectedSubjects })

/-- A service as it is shown: its configuration and two of its selectors. -/
def describe (a : AccountOrderingService) : String :=
  "AccountOrderingService \x7b config: " ++ a.config.describe ++ ", permitted: "
    ++ a.permitted.describe ++ ", ordered: " ++ a.ordered.describe ++ ", .. \x7d"

end AccountOrderingService

end WalletView
