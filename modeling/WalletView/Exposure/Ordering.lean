/-
# Exposure.Ordering — the accounts a site sees, in order

The accounts of a site are found by walking its allow-list: each address, unless it matches one
before it, gives every account that has it, in the order of the accounts.  Two accounts with one
address both count.  Each account is given out with the time at which its address was last shown
to the site, if the site's history has it.  Then the accounts are sorted by their keys; those
with one key stay in the order in which they were found.
-/
import WalletView.Exposure.SortKey

set_option autoImplicit false

namespace WalletView

/-- What the accounts of a site are found in and ordered by. -/
structure OrderingInputs where
  permitted : List Address
  accounts : InternalAccounts
  keyrings : List KeyringGroup
  history : PermissionHistory

/-- The addresses without those that match an earlier one. -/
def withoutRepeats : List Address → List Address
  | [] => []
  | address :: more => address :: (withoutRepeats more).filter fun a => !addressesMatch address a

/-- The accounts that have an address, in their order. -/
def InternalAccounts.withAddress (accounts : InternalAccounts) (address : Address) :
    List AccountRecord :=
  accounts.accounts.values.filter fun account => addressesMatch account.address address

/-- What an origin was shown under the account capability. -/
def exposureHistory? (history : PermissionHistory) (origin : Origin) (config : OrderingConfig) :
    Option PermissionHistoryEntry :=
  (history.get? origin).bind fun capabilities => capabilities.get? config.accountsCapability

/-- When an address was last shown: the time of the first address that matches. -/
def PermissionHistoryEntry.lastShown? (entry : PermissionHistoryEntry) (address : Address) :
    Option UInt64 :=
  (entry.accounts.entries.find? fun shown => addressesMatch shown.1 address).map Prod.snd

/-- The account with the time at which it was last active for the site that is asking. -/
def AccountRecord.stamped (history : Option PermissionHistoryEntry) (account : AccountRecord) :
    AccountRecord :=
  match history.bind fun entry => entry.lastShown? account.address with
  | some time => { account with metadata := { account.metadata with lastActive := some time } }
  | none => account

/-- The accounts on an allow-list, in the order in which it names them. -/
def connectedAccounts (permitted : List Address) (accounts : InternalAccounts) :
    List AccountRecord :=
  (withoutRepeats permitted).flatMap accounts.withAddress

/-- The accounts a site sees, in order. -/
def orderConnectedAccounts (inputs : OrderingInputs) (origin : Origin) (config : OrderingConfig) :
    List AccountRecord :=
  let history := exposureHistory? inputs.history origin config
  sortByKey (AccountRecord.sortKey inputs.keyrings)
    ((connectedAccounts inputs.permitted inputs.accounts).map (AccountRecord.stamped history))

end WalletView
