/-
# Proofs.Wallet.Codec — every part of the wallet's state is read back as it was read

One lemma for each codec, in the order in which they are built: a record's codec is lawful because
its fields are (`Json.Codec.record_lawful`), and what stands for a missing field is restored where
it is written.  Names are kept: the kind of an approval by any name, a transaction's status and
type by the names that are theirs.

Each lemma leaves the reserve open, so that the fields of a record, which are nested to different
depths, may agree on one.
-/
import WalletView.Wallet.Snapshot
import WalletView.Proofs.Json.Record

set_option autoImplicit false

namespace WalletView

open Json.Codec Json.Field

/-! ## Approvals -/

namespace ApprovalType

theorem name_ofName (name : String) : (ofName name).name = name := by
  unfold ofName
  split <;> rfl

theorem codec_lawful (reserve : Nat) : codec.Lawful reserve :=
  via_lawful (string_lawful _) name_ofName

end ApprovalType

theorem PendingApproval.codec_lawful (reserve : Nat) : codec.Lawful (reserve + 1) :=
  record_lawful
    ⟨required_lawful _ (string_lawful _),
      required_lawful _ (ApprovalType.codec_lawful _),
      withDefault_lawful _ (word_lawful _) fun _ => word_restores _ 0,
      optional_lawful _ (string_lawful _), trivial⟩
    (by decide) fun _ => rfl

/-! ## Messages -/

theorem SiweMetadata.codec_lawful (reserve : Nat) : codec.Lawful (reserve + 1) :=
  record_lawful
    ⟨withDefault_lawful _ (boolean_lawful _) fun _ => boolean_restores _ false, trivial⟩
    (by decide) fun _ => rfl

namespace MessageParams

theorem codec_lawful (reserve : Nat) : codec.Lawful (reserve + 2) :=
  record_lawful
    ⟨optional_lawful _ (any_lawful _),
      optional_lawful _ (string_lawful _),
      optional_lawful _ (string_lawful _),
      optional_lawful _ (SiweMetadata.codec_lawful reserve), trivial⟩
    (by decide) fun _ => rfl

theorem empty_restores (room : Nat) : codec.Restores (room + 1) empty :=
  record_restores (by decide) rfl ⟨nofun, nofun, nofun, nofun, trivial⟩

end MessageParams

theorem SignableMessage.codec_lawful (reserve : Nat) : codec.Lawful (reserve + 3) :=
  record_lawful
    ⟨required_lawful _ (string_lawful _),
      withDefault_lawful _ (MessageParams.codec_lawful reserve) fun _ =>
        MessageParams.empty_restores _, trivial⟩
    (by decide) fun _ => rfl

/-! ## Networks and transactions -/

theorem ChainId.codec_lawful (reserve : Nat) : codec.Lawful reserve :=
  via_lawful (string_lawful _) fun _ => rfl

namespace ProviderConfig

theorem codec_lawful (reserve : Nat) : codec.Lawful (reserve + 1) :=
  record_lawful
    ⟨required_lawful _ (ChainId.codec_lawful _),
      optional_lawful _ (string_lawful _),
      optional_lawful _ (string_lawful _),
      optional_lawful _ (string_lawful _),
      optional_lawful _ (string_lawful reserve), trivial⟩
    (by decide) fun _ => rfl

theorem empty_restores (room : Nat) : codec.Restores (room + 1) empty :=
  record_restores (by decide) rfl
    ⟨fun _ => via_restores (string_restores _ _) rfl, nofun, nofun, nofun, nofun, trivial⟩

end ProviderConfig

namespace BridgeState

theorem codec_lawful (reserve : Nat) : codec.Lawful (reserve + 2) :=
  record_lawful ⟨nullable_lawful _ (ProviderConfig.codec_lawful reserve), trivial⟩ (by decide)
    fun _ => rfl

theorem unset_restores (room : Nat) : codec.Restores (room + 1) ⟨none⟩ :=
  record_restores (by decide) rfl ⟨fun _ => Json.Reader.option_restores_none _, trivial⟩

end BridgeState

theorem TransactionStatus.ofName_name (status : TransactionStatus) :
    ofName status.name = status := by
  cases status <;> decide

theorem TransactionStatus.codec_lawful (reserve : Nat) : codec.Lawful reserve :=
  cases_lawful reserve fun _ => ofName_name _

theorem TransactionType.ofName_name (kind : TransactionType) : ofName kind.name = kind := by
  cases kind <;> decide

theorem TransactionType.codec_lawful (reserve : Nat) : codec.Lawful reserve :=
  cases_lawful reserve fun _ => ofName_name _

theorem TransactionRecord.codec_lawful (reserve : Nat) : codec.Lawful (reserve + 1) :=
  record_lawful
    ⟨required_lawful _ (string_lawful _),
      required_lawful _ (ChainId.codec_lawful _),
      required_lawful _ (TransactionStatus.codec_lawful _),
      optional_lawful _ (TransactionType.codec_lawful _),
      optional_lawful _ (word_lawful reserve), trivial⟩
    (by decide) fun _ => rfl

/-! ## Permissions -/

theorem Caveat.codec_lawful (reserve : Nat) : codec.Lawful (reserve + 1) :=
  record_lawful
    ⟨required_lawful _ (string_lawful _),
      withDefault_lawful _ (any_lawful reserve) fun _ =>
        any_restores (j := .null) trivial _, trivial⟩
    (by decide) fun _ => rfl

theorem Permission.codec_lawful (reserve : Nat) : codec.Lawful (reserve + 3) :=
  record_lawful
    ⟨withDefault_lawful _ (list_lawful (Caveat.codec_lawful reserve)) fun _ => list_restores nofun,
      withDefault_lawful _ (word_lawful _) fun _ => word_restores _ 0,
      withDefault_lawful _ (string_lawful _) fun _ => string_restores _ "",
      withDefault_lawful _ (string_lawful _) fun _ => string_restores _ "",
      withDefault_lawful _ (string_lawful _) fun _ => string_restores _ "", trivial⟩
    (by decide) fun _ => rfl

theorem Subject.codec_lawful (reserve : Nat) : codec.Lawful (reserve + 5) :=
  record_lawful
    ⟨optional_lawful _ (string_lawful _),
      withDefault_lawful _ (sortedMap_lawful (Permission.codec_lawful reserve)) fun _ =>
        sortedMap_restores nofun, trivial⟩
    (by decide) fun _ => rfl

theorem SubjectMetadata.codec_lawful (reserve : Nat) : codec.Lawful (reserve + 1) :=
  record_lawful
    ⟨nullable_lawful _ (string_lawful _),
      nullable_lawful _ (string_lawful _),
      nullable_lawful _ (string_lawful reserve), trivial⟩
    (by decide) fun _ => rfl

theorem PermissionHistoryEntry.codec_lawful (reserve : Nat) : codec.Lawful (reserve + 2) :=
  record_lawful
    ⟨withDefault_lawful _ (sortedMap_lawful (word_lawful reserve)) fun _ =>
        sortedMap_restores nofun,
      optional_lawful _ (word_lawful _), trivial⟩
    (by decide) fun _ => rfl

theorem PermissionHistory.codec_lawful (reserve : Nat) : codec.Lawful (reserve + 4) :=
  sortedMap_lawful (sortedMap_lawful (PermissionHistoryEntry.codec_lawful reserve))

/-! ## Accounts -/

namespace KeyringInfo

theorem codec_lawful (reserve : Nat) : codec.Lawful (reserve + 1) :=
  record_lawful ⟨required_lawful _ (string_lawful reserve), trivial⟩ (by decide) fun _ => rfl

theorem unnamed_restores (room : Nat) : codec.Restores (room + 1) ⟨""⟩ :=
  record_restores (by decide) rfl ⟨fun _ => string_restores _ _, trivial⟩

end KeyringInfo

namespace AccountMetadata

theorem codec_lawful (reserve : Nat) : codec.Lawful (reserve + 2) :=
  record_lawful
    ⟨required_lawful _ (string_lawful _),
      optional_lawful _ (word_lawful _),
      optional_lawful _ (word_lawful _),
      withDefault_lawful _ (KeyringInfo.codec_lawful reserve) fun _ =>
        KeyringInfo.unnamed_restores _, trivial⟩
    (by decide) fun _ => rfl

theorem empty_restores (room : Nat) : codec.Restores (room + 2) empty :=
  record_restores (by decide) rfl
    ⟨fun _ => string_restores _ _, nofun, nofun, fun _ => KeyringInfo.unnamed_restores _, trivial⟩

end AccountMetadata

theorem AccountRecord.codec_lawful (reserve : Nat) : codec.Lawful (reserve + 3) :=
  record_lawful
    ⟨required_lawful _ (string_lawful _),
      required_lawful _ (string_lawful _),
      withDefault_lawful _ (AccountMetadata.codec_lawful reserve) fun _ =>
        AccountMetadata.empty_restores _,
      withDefault_lawful _ (sortedMap_lawful (any_lawful _)) fun _ => sortedMap_restores nofun,
      withDefault_lawful _ (list_lawful (string_lawful _)) fun _ => list_restores nofun,
      withDefault_lawful _ (string_lawful _) fun _ => string_restores _ "", trivial⟩
    (by decide) fun _ => rfl

namespace InternalAccounts

theorem codec_lawful (reserve : Nat) : codec.Lawful (reserve + 5) :=
  record_lawful
    ⟨withDefault_lawful _ (idMap_lawful (AccountRecord.codec_lawful reserve)) fun _ =>
        idMap_restores nofun,
      withDefault_lawful _ (string_lawful _) fun _ => string_restores _ "", trivial⟩
    (by decide) fun _ => rfl

theorem empty_restores (room : Nat) : codec.Restores (room + 2) empty :=
  record_restores (by decide) rfl
    ⟨fun _ => idMap_restores nofun, fun _ => string_restores _ _, trivial⟩

end InternalAccounts

theorem KeyringGroup.codec_lawful (reserve : Nat) : codec.Lawful (reserve + 2) :=
  record_lawful
    ⟨optional_lawful _ (string_lawful _),
      withDefault_lawful _ (list_lawful (string_lawful reserve)) fun _ => list_restores nofun,
      trivial⟩
    (by decide) fun _ => rfl

/-! ## Settings -/

namespace Preferences

theorem codec_lawful (reserve : Nat) : codec.Lawful (reserve + 1) :=
  record_lawful
    ⟨withDefault_lawful _ (boolean_lawful reserve) fun _ => boolean_restores _ false, trivial⟩
    (by decide) fun _ => rfl

theorem off_restores (room : Nat) : codec.Restores (room + 1) ⟨false⟩ :=
  record_restores (by decide) rfl ⟨fun _ => boolean_restores _ _, trivial⟩

end Preferences

namespace BridgeFeatureFlags

theorem codec_lawful (reserve : Nat) : codec.Lawful (reserve + 1) :=
  record_lawful
    ⟨withDefault_lawful _ (boolean_lawful reserve) fun _ => boolean_restores _ false, trivial⟩
    (by decide) fun _ => rfl

theorem off_restores (room : Nat) : codec.Restores (room + 1) ⟨false⟩ :=
  record_restores (by decide) rfl ⟨fun _ => boolean_restores _ _, trivial⟩

end BridgeFeatureFlags

namespace FeatureFlags

theorem codec_lawful (reserve : Nat) : codec.Lawful (reserve + 2) :=
  record_lawful
    ⟨withDefault_lawful _ (boolean_lawful _) fun _ => boolean_restores _ false,
      withDefault_lawful _ (boolean_lawful _) fun _ => boolean_restores _ false,
      withDefault_lawful _ (BridgeFeatureFlags.codec_lawful reserve) fun _ =>
        BridgeFeatureFlags.off_restores _, trivial⟩
    (by decide) fun _ => rfl

theorem off_restores (room : Nat) : codec.Restores (room + 2) off :=
  record_restores (by decide) rfl
    ⟨fun _ => boolean_restores _ _, fun _ => boolean_restores _ _,
      fun _ => BridgeFeatureFlags.off_restores _, trivial⟩

end FeatureFlags

namespace ActiveTab

theorem codec_lawful (reserve : Nat) : codec.Lawful (reserve + 1) :=
  record_lawful
    ⟨nullable_lawful _ (string_lawful _),
      optional_lawful _ (string_lawful _),
      optional_lawful _ (string_lawful _),
      optional_lawful _ (string_lawful reserve), trivial⟩
    (by decide) fun _ => rfl

theorem empty_restores (room : Nat) : codec.Restores (room + 1) empty :=
  record_restores (by decide) rfl
    ⟨fun _ => Json.Reader.option_restores_none _, nofun, nofun, nofun, trivial⟩

end ActiveTab

/-! ## Snapshots -/

/-- The subjects are nested deepest of the slices: records in a map, their permissions in another,
caveats in a list. -/
theorem Snapshot.codec_lawful : codec.Lawful 7 :=
  record_lawful
    ⟨withDefault_lawful _ (idMap_lawful (PendingApproval.codec_lawful 4)) fun _ =>
        idMap_restores nofun,
      withDefault_lawful _ (sortedMap_lawful (SignableMessage.codec_lawful 2)) fun _ =>
        sortedMap_restores nofun,
      withDefault_lawful _ (sortedMap_lawful (SignableMessage.codec_lawful 2)) fun _ =>
        sortedMap_restores nofun,
      withDefault_lawful _ (list_lawful (TransactionRecord.codec_lawful 4)) fun _ =>
        list_restores nofun,
      withDefault_lawful _ (ProviderConfig.codec_lawful 5) fun _ =>
        ProviderConfig.empty_restores _,
      withDefault_lawful _ (Preferences.codec_lawful 5) fun _ => Preferences.off_restores _,
      withDefault_lawful _ (FeatureFlags.codec_lawful 4) fun _ => FeatureFlags.off_restores _,
      withDefault_lawful _ (idMap_lawful (Subject.codec_lawful 0)) fun _ => idMap_restores nofun,
      withDefault_lawful _ (idMap_lawful (SubjectMetadata.codec_lawful 4)) fun _ =>
        idMap_restores nofun,
      withDefault_lawful _ (PermissionHistory.codec_lawful 2) fun _ => sortedMap_restores nofun,
      withDefault_lawful _ (InternalAccounts.codec_lawful 1) fun _ =>
        InternalAccounts.empty_restores _,
      withDefault_lawful _ (list_lawful (KeyringGroup.codec_lawful 3)) fun _ =>
        list_restores nofun,
      withDefault_lawful _ (ActiveTab.codec_lawful 5) fun _ => ActiveTab.empty_restores _,
      withDefault_lawful _ (BridgeState.codec_lawful 4) fun _ => BridgeState.unset_restores _,
      trivial⟩
    (by decide) fun _ => rfl

end WalletView
