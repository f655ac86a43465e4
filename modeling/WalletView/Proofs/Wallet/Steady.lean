/-
# Proofs.Wallet.Steady — every part of the wallet's state is read steadily

One lemma for each codec, in the order in which they are built: a record's codec is steady because
its fields' are (`Json.Codec.record_steady`), whatever stands for a missing one.
-/
import WalletView.Wallet.Snapshot
import WalletView.Proofs.Json.SteadyRecord

set_option autoImplicit false

namespace WalletView

open Json.Codec

/-! ## Approvals and messages -/

theorem ApprovalType.codec_steady : codec.Steady :=
  via_steady string_steady

theorem PendingApproval.codec_steady : codec.Steady :=
  record_steady
    ⟨string_steady, ApprovalType.codec_steady, word_steady, option_steady string_steady, trivial⟩

theorem SiweMetadata.codec_steady : codec.Steady :=
  record_steady ⟨boolean_steady, trivial⟩

theorem MessageParams.codec_steady : codec.Steady :=
  record_steady
    ⟨option_steady any_steady, option_steady string_steady, option_steady string_steady,
      option_steady SiweMetadata.codec_steady, trivial⟩

theorem SignableMessage.codec_steady : codec.Steady :=
  record_steady ⟨string_steady, MessageParams.codec_steady, trivial⟩

/-! ## Networks and transactions -/

theorem ChainId.codec_steady : codec.Steady :=
  via_steady string_steady

theorem ProviderConfig.codec_steady : codec.Steady :=
  record_steady
    ⟨ChainId.codec_steady, option_steady string_steady, option_steady string_steady,
      option_steady string_steady, option_steady string_steady, trivial⟩

theorem BridgeState.codec_steady : codec.Steady :=
  record_steady ⟨option_steady ProviderConfig.codec_steady, trivial⟩

theorem TransactionStatus.codec_steady : codec.Steady :=
  cases_steady

theorem TransactionType.codec_steady : codec.Steady :=
  cases_steady

theorem TransactionRecord.codec_steady : codec.Steady :=
  record_steady
    ⟨string_steady, ChainId.codec_steady, TransactionStatus.codec_steady,
      option_steady TransactionType.codec_steady, option_steady word_steady, trivial⟩

/-! ## Permissions -/

theorem Caveat.codec_steady : codec.Steady :=
  record_steady ⟨string_steady, any_steady, trivial⟩

theorem Permission.codec_steady : codec.Steady :=
  record_steady
    ⟨list_steady Caveat.codec_steady, word_steady, string_steady, string_steady, string_steady,
      trivial⟩

theorem Subject.codec_steady : codec.Steady :=
  record_steady
    ⟨option_steady string_steady, sortedMap_steady Permission.codec_steady, trivial⟩

theorem SubjectMetadata.codec_steady : codec.Steady :=
  record_steady
    ⟨option_steady string_steady, option_steady string_steady, option_steady string_steady,
      trivial⟩

theorem PermissionHistoryEntry.codec_steady : codec.Steady :=
  record_steady ⟨sortedMap_steady word_steady, option_steady word_steady, trivial⟩

theorem PermissionHistory.codec_steady : codec.Steady :=
  sortedMap_steady (sortedMap_steady PermissionHistoryEntry.codec_steady)

/-! ## Accounts -/

theorem KeyringInfo.codec_steady : codec.Steady :=
  record_steady ⟨string_steady, trivial⟩

theorem AccountMetadata.codec_steady : codec.Steady :=
  record_steady
    ⟨string_steady, option_steady word_steady, option_steady word_steady, KeyringInfo.codec_steady,
      trivial⟩

theorem AccountRecord.codec_steady : codec.Steady :=
  record_steady
    ⟨string_steady, string_steady, AccountMetadata.codec_steady, sortedMap_steady any_steady,
      list_steady string_steady, string_steady, trivial⟩

theorem InternalAccounts.codec_steady : codec.Steady :=
  record_steady ⟨idMap_steady AccountRecord.codec_steady, string_steady, trivial⟩

theorem KeyringGroup.codec_steady : codec.Steady :=
  record_steady ⟨option_steady string_steady, list_steady string_steady, trivial⟩

/-! ## Settings -/

theorem Preferences.codec_steady : codec.Steady :=
  record_steady ⟨boolean_steady, trivial⟩

theorem BridgeFeatureFlags.codec_steady : codec.Steady :=
  record_steady ⟨boolean_steady, trivial⟩

theorem FeatureFlags.codec_steady : codec.Steady :=
  record_steady ⟨boolean_steady, boolean_steady, BridgeFeatureFlags.codec_steady, trivial⟩

theorem ActiveTab.codec_steady : codec.Steady :=
  record_steady
    ⟨option_steady string_steady, option_steady string_steady, option_steady string_steady,
      option_steady string_steady, trivial⟩

/-! ## Snapshots -/

namespace Snapshot

theorem fields_steady : fields.Steady :=
  ⟨idMap_steady PendingApproval.codec_steady,
    sortedMap_steady SignableMessage.codec_steady,
    sortedMap_steady SignableMessage.codec_steady,
    list_steady TransactionRecord.codec_steady,
    ProviderConfig.codec_steady,
    Preferences.codec_steady,
    FeatureFlags.codec_steady,
    idMap_steady Subject.codec_steady,
    idMap_steady SubjectMetadata.codec_steady,
    PermissionHistory.codec_steady,
    InternalAccounts.codec_steady,
    list_steady KeyringGroup.codec_steady,
    ActiveTab.codec_steady,
    BridgeState.codec_steady, trivial⟩

theorem codec_steady : codec.Steady :=
  record_steady fields_steady

end Snapshot

end WalletView
