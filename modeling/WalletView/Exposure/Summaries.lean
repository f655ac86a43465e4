/-
# Exposure.Summaries — who is connected to what

Summaries for the screens on connections: which accounts each site was last shown, what a site
is permitted, and which sites may see an address.
-/
import WalletView.Exposure.AllowList

set_option autoImplicit false

namespace WalletView

/-- The accounts last shown to a site, each with the time. -/
structure ConnectedAccounts where
  accounts : SortedMap UInt64
deriving DecidableEq, Repr, Inhabited

def ConnectedAccounts.encode (c : ConnectedAccounts) : Json :=
  .object [("accounts", (Json.Codec.sortedMap .word).encode c.accounts)]

/-- The accounts last shown to each site. -/
abbrev LastConnectedInfo := SortedMap ConnectedAccounts

def LastConnectedInfo.encode (info : LastConnectedInfo) : Json :=
  .object (info.entries.map fun entry => (entry.1, entry.2.encode))

/-- The accounts last shown to each site; a site never shown any under the account capability
is left out. -/
def lastConnectedInfo (history : PermissionHistory) (config : OrderingConfig) :
    LastConnectedInfo :=
  history.filterMap fun capabilities =>
    (capabilities.get? config.accountsCapability).map fun entry => ⟨entry.accounts⟩

/-- A capability of a site. -/
structure PermissionEntry where
  key : String
  value : Permission
deriving Repr, Inhabited

def PermissionEntry.encode (e : PermissionEntry) : Json :=
  .object [("key", .string e.key), ("value", Permission.codec.encode e.value)]

/-- Every capability of the site at an origin. -/
def permissionsForOrigin (subjects : IdMap Subject) (origin : Origin) : List PermissionEntry :=
  match subjects.get? origin with
  | none => []
  | some subject => subject.permissions.entries.map fun entry => ⟨entry.1, entry.2⟩

/-- A site and how it is shown. -/
structure ConnectedSubject where
  origin : Origin
  metadata : SubjectMetadata
deriving DecidableEq, Repr, Inhabited

def ConnectedSubject.encode (s : ConnectedSubject) : Json :=
  .object [("origin", .string s.origin),
    ("name", .ofOption .string s.metadata.name),
    ("iconUrl", .ofOption .string s.metadata.iconUrl),
    ("extensionId", .ofOption .string s.metadata.extensionId)]

/-- The sites that may see an address, in the order of the sites. -/
def connectedSubjects (subjects : IdMap Subject) (metadata : IdMap SubjectMetadata)
    (address : Address) (config : OrderingConfig) : List ConnectedSubject :=
  (subjects.entries.filter fun entry =>
      isPermitted (entry.2.permittedAccounts config) address).map
    fun entry => ⟨entry.1, (metadata.get? entry.1).getD ⟨none, none, none⟩⟩

end WalletView
