/-
# Wallet.Snapshot — the wallet's state at one moment

A snapshot has fourteen slices.  Its text is an object, or a list, of them; a slice that is not
mentioned is empty.  A snapshot is described for any way of holding its slices and the messages
and transactions in them: plain, as the pure derivations see it, or each in an allocation of its
own, as the memoized services do.
-/
import WalletView.Wallet.Transaction
import WalletView.Wallet.Permission
import WalletView.Wallet.Account
import WalletView.Wallet.Settings
import WalletView.Memo.Shared

set_option autoImplicit false

namespace WalletView

/-- The slices of the wallet's state, held in the given way. -/
structure Snapshot (Hold : Type → Type) where
  pendingApprovals : Hold (IdMap PendingApproval)
  unapprovedPersonalMsgs : Hold (SortedMap (Hold SignableMessage))
  unapprovedTypedMessages : Hold (SortedMap (Hold SignableMessage))
  transactions : Hold (List (Hold TransactionRecord))
  providerConfig : Hold ProviderConfig
  preferences : Hold Preferences
  featureFlags : Hold FeatureFlags
  subjects : Hold (IdMap Subject)
  subjectMetadata : Hold (IdMap SubjectMetadata)
  permissionHistory : Hold PermissionHistory
  internalAccounts : Hold InternalAccounts
  keyrings : Hold (List KeyringGroup)
  activeTab : Hold ActiveTab
  bridge : Hold BridgeState

/-- Why a file could not be read as text. -/
inductive FileProblem where
  | notFound
  | isDirectory
  | notText
  | other (reason : String)
deriving DecidableEq, Repr

def FileProblem.message : FileProblem → String
  | .notFound => "No such file or directory (os error 2)"
  | .isDirectory => "Is a directory (os error 21)"
  | .notText => "stream did not contain valid UTF-8"
  | .other reason => reason

/-- Why a snapshot was not loaded. -/
inductive SnapshotError where
  | unreadable (path : String) (problem : FileProblem)
  | malformed (problem : Json.ReadError)
deriving DecidableEq, Repr

def SnapshotError.message : SnapshotError → String
  | .unreadable path problem => "Failed to read snapshot " ++ path ++ ": " ++ problem.message
  | .malformed problem => "Malformed snapshot: " ++ problem.message

namespace Snapshot

/-- The snapshot with nothing in it. -/
def empty : Snapshot Plain where
  pendingApprovals := .empty
  unapprovedPersonalMsgs := .empty
  unapprovedTypedMessages := .empty
  transactions := []
  providerConfig := .empty
  preferences := ⟨false⟩
  featureFlags := .off
  subjects := .empty
  subjectMetadata := .empty
  permissionHistory := .empty
  internalAccounts := .empty
  keyrings := []
  activeTab := .empty
  bridge := ⟨none⟩

/-- The slices as they stand in the text of a snapshot. -/
def fields : Json.Fields
    [IdMap PendingApproval, SortedMap SignableMessage, SortedMap SignableMessage,
      List TransactionRecord, ProviderConfig, Preferences, FeatureFlags, IdMap Subject,
      IdMap SubjectMetadata, PermissionHistory, InternalAccounts, List KeyringGroup, ActiveTab,
      BridgeState] :=
  .cons (.withDefault "pendingApprovals" PendingApproval.codec.idMap empty.pendingApprovals) <|
  .cons (.withDefault "unapprovedPersonalMsgs" SignableMessage.codec.sortedMap
    empty.unapprovedPersonalMsgs) <|
  .cons (.withDefault "unapprovedTypedMessages" SignableMessage.codec.sortedMap
    empty.unapprovedTypedMessages) <|
  .cons (.withDefault "transactions" TransactionRecord.codec.list empty.transactions) <|
  .cons (.withDefault "providerConfig" ProviderConfig.codec empty.providerConfig) <|
  .cons (.withDefault "preferences" Preferences.codec empty.preferences) <|
  .cons (.withDefault "featureFlags" FeatureFlags.codec empty.featureFlags) <|
  .cons (.withDefault "subjects" Subject.codec.idMap empty.subjects) <|
  .cons (.withDefault "subjectMetadata" SubjectMetadata.codec.idMap empty.subjectMetadata) <|
  .cons (.withDefault "permissionHistory" PermissionHistory.codec empty.permissionHistory) <|
  .cons (.withDefault "internalAccounts" InternalAccounts.codec empty.internalAccounts) <|
  .cons (.withDefault "keyrings" KeyringGroup.codec.list empty.keyrings) <|
  .cons (.withDefault "activeTab" ActiveTab.codec empty.activeTab) <|
  .cons (.withDefault "bridge" BridgeState.codec empty.bridge) .nil

def codec : Json.Codec (Snapshot Plain) :=
  .record "WalletState" fields
    (fun (pendingApprovals, unapprovedPersonalMsgs, unapprovedTypedMessages, transactions,
        providerConfig, preferences, featureFlags, subjects, subjectMetadata, permissionHistory,
        internalAccounts, keyrings, activeTab, bridge, ()) =>
      { pendingApprovals, unapprovedPersonalMsgs, unapprovedTypedMessages, transactions,
        providerConfig, preferences, featureFlags, subjects, subjectMetadata, permissionHistory,
        internalAccounts, keyrings, activeTab, bridge })
    (fun s =>
      (s.pendingApprovals, s.unapprovedPersonalMsgs, s.unapprovedTypedMessages, s.transactions,
        s.providerConfig, s.preferences, s.featureFlags, s.subjects, s.subjectMetadata,
        s.permissionHistory, s.internalAccounts, s.keyrings, s.activeTab, s.bridge, ()))

/-- The snapshot that a text describes. -/
def parse (text : String) : Except SnapshotError (Snapshot Plain) :=
  (codec.parse text).mapError .malformed

theorem parse_eq_ok_iff {text : String} {s : Snapshot Plain} :
    parse text = .ok s ↔ codec.parse text = .ok s := by
  rw [parse]
  cases codec.parse text with
  | error problem => exact ⟨nofun, nofun⟩
  | ok last =>
    constructor
    · rintro ⟨⟩
      rfl
    · rintro ⟨⟩
      rfl

theorem parse_eq_malformed {text : String} {problem : Json.ReadError}
    (refused : codec.parse text = .error problem) : parse text = .error (.malformed problem) := by
  rw [parse, refused]
  rfl

/-- A text from which something is read that passes a test is the text of a snapshot that does. -/
theorem exists_of_parse {text : String} {p : Snapshot Plain → Bool}
    (accepted : (parse text).toOption.any p = true) : ∃ s, parse text = .ok s ∧ p s = true := by
  cases read : parse text with
  | error problem => rw [read] at accepted; cases accepted
  | ok s => rw [read] at accepted; exact ⟨s, rfl, accepted⟩

/-- The text in a file's bytes. -/
def decodeText (bytes : ByteArray) : Except FileProblem String :=
  match String.fromUTF8? bytes with
  | some text => .ok text
  | none => .error .notText

/-- The snapshot in a file, given what reading the file at its path gave. -/
def ofFile (path : String) (content : Except FileProblem ByteArray) :
    Except SnapshotError (Snapshot Plain) := do
  let text ← (content.bind decodeText).mapError (.unreadable path)
  parse text

/-- The text of a snapshot. -/
def render (s : Snapshot Plain) : String :=
  (codec.encode s).compact

section Held

variable {Hold : Type → Type} [Holding Hold]

/-- The origin of the active tab. -/
def activeOrigin? (s : Snapshot Hold) : Option Origin :=
  (Holding.value s.activeTab).origin

/-- The values of a snapshot. -/
def values (s : Snapshot Hold) : Snapshot Plain where
  pendingApprovals := Holding.value s.pendingApprovals
  unapprovedPersonalMsgs := (Holding.value s.unapprovedPersonalMsgs).map Holding.value
  unapprovedTypedMessages := (Holding.value s.unapprovedTypedMessages).map Holding.value
  transactions := (Holding.value s.transactions).map Holding.value
  providerConfig := Holding.value s.providerConfig
  preferences := Holding.value s.preferences
  featureFlags := Holding.value s.featureFlags
  subjects := Holding.value s.subjects
  subjectMetadata := Holding.value s.subjectMetadata
  permissionHistory := Holding.value s.permissionHistory
  internalAccounts := Holding.value s.internalAccounts
  keyrings := Holding.value s.keyrings
  activeTab := Holding.value s.activeTab
  bridge := Holding.value s.bridge

end Held

end Snapshot

end WalletView
