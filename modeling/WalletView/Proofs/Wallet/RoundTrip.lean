/-
# Proofs.Wallet.RoundTrip — a snapshot is read back from its text

What a snapshot keeps of its text in any shape are the data of messages, the values of caveats and
the options of accounts (`Snapshot.freeForm`).  All else is written without doubles, so what is
written of a snapshot is whole just if its free-form values are.  Then the codec, being lawful,
reads the snapshot back, whatever the text was that it was read from first: with fields missing or
twice, in lists instead of objects, under names that are not kept.
-/
import WalletView.Proofs.Wallet.Codec

set_option autoImplicit false

namespace WalletView

/-! ## Values of any shape -/

def SignableMessage.freeForm (m : SignableMessage) : List Json :=
  m.params.data.toList

def Subject.freeForm (s : Subject) : List Json :=
  s.permissions.entries.flatMap fun entry => entry.2.caveats.map Caveat.value

def AccountRecord.freeForm (a : AccountRecord) : List Json :=
  a.options.entries.map Prod.snd

/-- The values of a snapshot that may have any shape. -/
def Snapshot.freeForm (s : Snapshot Plain) : List Json :=
  let ofMessages (messages : SortedMap SignableMessage) :=
    messages.entries.flatMap fun entry => entry.2.freeForm
  ofMessages s.unapprovedPersonalMsgs ++ ofMessages s.unapprovedTypedMessages ++
    s.subjects.entries.flatMap (fun entry => entry.2.freeForm) ++
    s.internalAccounts.accounts.entries.flatMap fun entry => entry.2.freeForm

/-! ## What is written is whole -/

open Json

@[simp] theorem ApprovalType.encode_isWhole (kind : ApprovalType) :
    (codec.encode kind).isWhole = true := by
  simp [codec]

@[simp] theorem PendingApproval.encode_isWhole (a : PendingApproval) :
    (codec.encode a).isWhole = true := by
  simp [codec]

@[simp] theorem SiweMetadata.encode_isWhole (m : SiweMetadata) :
    (codec.encode m).isWhole = true := by
  simp [codec]

@[simp] theorem SignableMessage.encode_isWhole {m : SignableMessage} :
    (codec.encode m).isWhole = true ↔ ∀ j ∈ m.freeForm, j.isWhole = true := by
  simp [codec, MessageParams.codec, freeForm]

@[simp] theorem ProviderConfig.encode_isWhole (p : ProviderConfig) :
    (codec.encode p).isWhole = true := by
  simp [codec, ChainId.codec]

@[simp] theorem BridgeState.encode_isWhole (b : BridgeState) :
    (codec.encode b).isWhole = true := by
  simp [codec]

@[simp] theorem TransactionRecord.encode_isWhole (t : TransactionRecord) :
    (codec.encode t).isWhole = true := by
  simp [codec, ChainId.codec, TransactionStatus.codec, TransactionType.codec]

@[simp] theorem Subject.encode_isWhole {s : Subject} :
    (codec.encode s).isWhole = true ↔ ∀ j ∈ s.freeForm, j.isWhole = true := by
  rw [freeForm, List.forall_mem_flatMap]
  simp [codec, Permission.codec, Caveat.codec]

@[simp] theorem SubjectMetadata.encode_isWhole (m : SubjectMetadata) :
    (codec.encode m).isWhole = true := by
  simp [codec]

@[simp] theorem PermissionHistory.encode_isWhole (history : PermissionHistory) :
    (codec.encode history).isWhole = true := by
  simp [codec, PermissionHistoryEntry.codec]

@[simp] theorem AccountRecord.encode_isWhole {a : AccountRecord} :
    (codec.encode a).isWhole = true ↔ ∀ j ∈ a.freeForm, j.isWhole = true := by
  rw [freeForm, List.forall_mem_map]
  simp [codec, AccountMetadata.codec, KeyringInfo.codec]

@[simp] theorem KeyringGroup.encode_isWhole (g : KeyringGroup) :
    (codec.encode g).isWhole = true := by
  simp [codec]

@[simp] theorem Preferences.encode_isWhole (p : Preferences) :
    (codec.encode p).isWhole = true := by
  simp [codec]

@[simp] theorem FeatureFlags.encode_isWhole (f : FeatureFlags) :
    (codec.encode f).isWhole = true := by
  simp [codec, BridgeFeatureFlags.codec]

@[simp] theorem ActiveTab.encode_isWhole (t : ActiveTab) :
    (codec.encode t).isWhole = true := by
  simp [codec]

namespace Snapshot

/-- What is written of a snapshot is whole just if its free-form values are. -/
theorem encode_isWhole {s : Snapshot Plain} :
    (codec.encode s).isWhole = true ↔ ∀ j ∈ s.freeForm, j.isWhole = true := by
  simp only [freeForm, List.forall_mem_append, List.forall_mem_flatMap]
  simp [codec, fields, InternalAccounts.codec, and_assoc]

/-- **A snapshot that was read is read back from its text**, in all its slices and with the records
of a map in their order, as long as no double stands in its free-form values; then it is written as
the same text again. -/
theorem parse_render {text : String} {s : Snapshot Plain} (read : parse text = .ok s)
    (whole : ∀ j ∈ s.freeForm, j.isWhole = true) :
    parse s.render = .ok s ∧ (parse s.render).map render = .ok s.render := by
  have readBack : parse s.render = .ok s :=
    parse_eq_ok_iff.2 (codec_lawful.parse_compact (by decide) (parse_eq_ok_iff.1 read)
      (encode_isWhole.2 whole))
  exact ⟨readBack, congrArg (Except.map render) readBack⟩

/-- A list of slices: an approval given twice, a message about a list, and a transaction whose
status is no name of a status and stands in braces. -/
theorem parse_render_of_list :
    let text := "[\x7b\"7\":[\"7\",\"mint\"],\"7\":[\"7\",\"transaction\",5]\x7d," ++
      "\x7b\"7\":[\"7\",[[1,-2]]]\x7d,\x7b\x7d,[[\"7\",\"0x1\",\x7b\"minted\":null\x7d]]]"
    let data : Json := .array [.natural 1, .number (.integer (-2))]
    let s : Snapshot Plain := { empty with
      pendingApprovals := .ofList [("7", ⟨"7", .transaction, 5, none⟩)]
      unapprovedPersonalMsgs := .ofList [("7", ⟨"7", ⟨some data, none, none, none⟩⟩)]
      transactions := [⟨"7", ⟨"0x1"⟩, .unknown, none, none⟩] }
    parse text = .ok s ∧ (∀ j ∈ s.freeForm, j.isWhole = true) ∧
      parse s.render = .ok s ∧ (parse s.render).map render = .ok s.render := by
  intro text data s
  have read : parse text = .ok s := by
    subst text
    with_unfolding_all rfl
  have whole : ∀ j ∈ s.freeForm, j.isWhole = true := by decide
  exact ⟨read, whole, parse_render read whole⟩

end Snapshot

end WalletView
