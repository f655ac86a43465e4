/-
# Wallet.Slice — snapshots that share slices

A snapshot in allocations is made from a plain one by allocating every slice, and every message
and transaction in them.  A successor is made from it by putting in one new slice, or by taking
one over from another snapshot; all other slices stay the allocations that they are.
-/
import WalletView.Wallet.Snapshot

set_option autoImplicit false

namespace WalletView

/-- Puts messages into allocations of their own, and the slice of them into another. -/
def allocateMessages (messages : SortedMap SignableMessage) :
    Allocating (Shared (SortedMap (Shared SignableMessage))) := fun supply =>
  allocate (messages.mapIdx fun i m => ⟨supply.next + i, m⟩) ⟨supply.next + messages.size⟩

/-- Puts transactions into allocations of their own, and the slice of them into another. -/
def allocateTransactions (transactions : List TransactionRecord) :
    Allocating (Shared (List (Shared TransactionRecord))) := do
  allocate (← allocateAll transactions)

/-- The slices of a snapshot. -/
inductive Slice where
  | pendingApprovals
  | unapprovedPersonalMsgs
  | unapprovedTypedMessages
  | transactions
  | providerConfig
  | preferences
  | featureFlags
  | subjects
  | subjectMetadata
  | permissionHistory
  | internalAccounts
  | keyrings
  | activeTab
  | bridge
deriving DecidableEq, Repr

namespace Slice

/-- The key of a slice in the text of a snapshot. -/
def name : Slice → String
  | pendingApprovals => "pendingApprovals"
  | unapprovedPersonalMsgs => "unapprovedPersonalMsgs"
  | unapprovedTypedMessages => "unapprovedTypedMessages"
  | transactions => "transactions"
  | providerConfig => "providerConfig"
  | preferences => "preferences"
  | featureFlags => "featureFlags"
  | subjects => "subjects"
  | subjectMetadata => "subjectMetadata"
  | permissionHistory => "permissionHistory"
  | internalAccounts => "internalAccounts"
  | keyrings => "keyrings"
  | activeTab => "activeTab"
  | bridge => "bridge"

def all : List Slice :=
  [pendingApprovals, unapprovedPersonalMsgs, unapprovedTypedMessages, transactions,
    providerConfig, preferences, featureFlags, subjects, subjectMetadata, permissionHistory,
    internalAccounts, keyrings, activeTab, bridge]

def ofName? (name : String) : Option Slice :=
  all.find? (·.name == name)

end Slice

namespace Snapshot

/-- A snapshot of which every slice is a new allocation. -/
def share (s : Snapshot Plain) : Allocating (Snapshot Shared) := do
  return {
    pendingApprovals := ← allocate s.pendingApprovals
    unapprovedPersonalMsgs := ← allocateMessages s.unapprovedPersonalMsgs
    unapprovedTypedMessages := ← allocateMessages s.unapprovedTypedMessages
    transactions := ← allocateTransactions s.transactions
    providerConfig := ← allocate s.providerConfig
    preferences := ← allocate s.preferences
    featureFlags := ← allocate s.featureFlags
    subjects := ← allocate s.subjects
    subjectMetadata := ← allocate s.subjectMetadata
    permissionHistory := ← allocate s.permissionHistory
    internalAccounts := ← allocate s.internalAccounts
    keyrings := ← allocate s.keyrings
    activeTab := ← allocate s.activeTab
    bridge := ← allocate s.bridge }

/-- The snapshot with one slice read from a text into a new allocation. -/
def replace (s : Snapshot Shared) (slice : Slice) (text : String) :
    Except Json.ReadError (Allocating (Snapshot Shared)) :=
  match slice with
  | .pendingApprovals =>
    (PendingApproval.codec.idMap.parse text).map fun v => do
      return { s with pendingApprovals := ← allocate v }
  | .unapprovedPersonalMsgs =>
    (SignableMessage.codec.sortedMap.parse text).map fun v => do
      return { s with unapprovedPersonalMsgs := ← allocateMessages v }
  | .unapprovedTypedMessages =>
    (SignableMessage.codec.sortedMap.parse text).map fun v => do
      return { s with unapprovedTypedMessages := ← allocateMessages v }
  | .transactions =>
    (TransactionRecord.codec.list.parse text).map fun v => do
      return { s with transactions := ← allocateTransactions v }
  | .providerConfig =>
    (ProviderConfig.codec.parse text).map fun v => do
      return { s with providerConfig := ← allocate v }
  | .preferences =>
    (Preferences.codec.parse text).map fun v => do
      return { s with preferences := ← allocate v }
  | .featureFlags =>
    (FeatureFlags.codec.parse text).map fun v => do
      return { s with featureFlags := ← allocate v }
  | .subjects =>
    (Subject.codec.idMap.parse text).map fun v => do
      return { s with subjects := ← allocate v }
  | .subjectMetadata =>
    (SubjectMetadata.codec.idMap.parse text).map fun v => do
      return { s with subjectMetadata := ← allocate v }
  | .permissionHistory =>
    (PermissionHistory.codec.parse text).map fun v => do
      return { s with permissionHistory := ← allocate v }
  | .internalAccounts =>
    (InternalAccounts.codec.parse text).map fun v => do
      return { s with internalAccounts := ← allocate v }
  | .keyrings =>
    (KeyringGroup.codec.list.parse text).map fun v => do
      return { s with keyrings := ← allocate v }
  | .activeTab =>
    (ActiveTab.codec.parse text).map fun v => do
      return { s with activeTab := ← allocate v }
  | .bridge =>
    (BridgeState.codec.parse text).map fun v => do
      return { s with bridge := ← allocate v }

/-- The snapshot with one slice taken over from another snapshot. -/
def adopt (s : Snapshot Shared) (slice : Slice) (other : Snapshot Shared) : Snapshot Shared :=
  match slice with
  | .pendingApprovals => { s with pendingApprovals := other.pendingApprovals }
  | .unapprovedPersonalMsgs => { s with unapprovedPersonalMsgs := other.unapprovedPersonalMsgs }
  | .unapprovedTypedMessages => { s with unapprovedTypedMessages := other.unapprovedTypedMessages }
  | .transactions => { s with transactions := other.transactions }
  | .providerConfig => { s with providerConfig := other.providerConfig }
  | .preferences => { s with preferences := other.preferences }
  | .featureFlags => { s with featureFlags := other.featureFlags }
  | .subjects => { s with subjects := other.subjects }
  | .subjectMetadata => { s with subjectMetadata := other.subjectMetadata }
  | .permissionHistory => { s with permissionHistory := other.permissionHistory }
  | .internalAccounts => { s with internalAccounts := other.internalAccounts }
  | .keyrings => { s with keyrings := other.keyrings }
  | .activeTab => { s with activeTab := other.activeTab }
  | .bridge => { s with bridge := other.bridge }

end Snapshot

end WalletView
