/-
# Proofs.Confirmation.Kind — the name of a request's kind is kept, and tells how it is shown

One table reads kinds of requests from their names, another writes them, and a third says how a
request of each kind is shown.  The tables fit together:

* what is read from a name is written as that name (`ApprovalType.name_ofName`), so no two names
  have one kind;
* seven names have a kind of their own, and any other name is kept as it is
  (`ApprovalType.ofName_eq_other_iff`);
* a kind is read back from its name unless it keeps one of those seven
  (`ApprovalType.ofName_name_iff`);
* two of the seven are shown as signatures, one as a transaction, and no other name is shown
  (`ConfirmationKind.ofApproval_ofName_eq_signature_iff` and the two after it).

Statuses of transactions do not keep their names: all names that no status has are read as one
(`TransactionStatus.ofName_eq_ofName_iff`).
-/
import WalletView.Proofs.Confirmation.Reason
import WalletView.Proofs.Wallet.Codec

set_option autoImplicit false

namespace WalletView

/-! ## Kinds of requests -/

namespace ApprovalType

/-- The names that have a kind of their own. -/
def knownNames : List String :=
  ["personal_sign", "eth_signTypedData", "transaction", "eth_sign", "wallet_addEthereumChain",
    "wallet_switchEthereumChain", "wallet_requestPermissions"]

section Names

variable {name name' : String} {kind : ApprovalType}

theorem ofName_eq_ofName_iff : ofName name = ofName name' ↔ name = name' :=
  (Function.LeftInverse.injective name_ofName).eq_iff

theorem isKnown_ofName_iff : (ofName name).isKnown = true ↔ name ∈ knownNames := by
  unfold ofName
  split <;> simp_all [isKnown, knownNames]

theorem eq_other_name (notKnown : kind.isKnown = false) : kind = other kind.name := by
  cases kind with
  | other kept => rfl
  | _ => cases notKnown

/-- A name is kept as it is just if it has no kind of its own, and no other name is kept for it. -/
theorem ofName_eq_other_iff {kept : String} :
    ofName name = other kept ↔ kept = name ∧ name ∉ knownNames := by
  constructor
  · intro isOther
    have sameName : (other kept).name = name := isOther ▸ name_ofName name
    refine ⟨sameName, fun listed => ?_⟩
    have known := isKnown_ofName_iff.2 listed
    rw [isOther] at known
    cases known
  · rintro ⟨rfl, unlisted⟩
    have notKnown : (ofName kept).isKnown = false :=
      Bool.eq_false_iff.2 (mt isKnown_ofName_iff.1 unlisted)
    calc ofName kept = other (ofName kept).name := eq_other_name notKnown
      _ = other kept := congrArg other (name_ofName kept)

theorem ofName_name_of_isKnown (known : kind.isKnown = true) : ofName kind.name = kind := by
  cases kind with
  | other kept => cases known
  | _ => rfl

/-- A kind of its own is read from one name only. -/
theorem ofName_eq_iff_of_isKnown (known : kind.isKnown = true) :
    ofName name = kind ↔ name = kind.name := by
  constructor
  · rintro rfl
    exact (name_ofName name).symm
  · rintro rfl
    exact ofName_name_of_isKnown known

/-- A kind is read back from its name unless it keeps a name that has a kind of its own. -/
theorem ofName_name_iff : ofName kind.name = kind ↔ kind ∉ knownNames.map other := by
  cases kind with
  | other kept =>
    show ofName kept = other kept ↔ other kept ∉ knownNames.map other
    rw [ofName_eq_other_iff]
    simp
  | _ => exact iff_of_true rfl (by decide)

end Names

/-! ### In texts -/

theorem codec_encode_ofName (name : String) : codec.encode (ofName name) = .string name :=
  congrArg Json.string (name_ofName name)

theorem codec_parse_string (name : String) :
    codec.parse (Json.string name).compact = .ok (ofName name) := by
  have restores : codec.Restores Json.greatestDepth (ofName name) :=
    Json.Codec.via_restores (Json.Codec.string_restores _ _) (congrArg ofName (name_ofName name))
  rw [← codec_encode_ofName]
  exact Json.Codec.parse_compact restores

end ApprovalType

/-! ## Statuses of transactions -/

namespace TransactionStatus

/-- The names that have a status of their own. -/
def knownNames : List String :=
  ["unapproved", "approved", "signed", "submitted", "confirmed", "failed", "rejected", "dropped"]

variable {name name' : String}

theorem name_ofName_of_mem (listed : name ∈ knownNames) : (ofName name).name = name := by
  have kept : ∀ name ∈ knownNames, (ofName name).name = name := by decide
  exact kept name listed

theorem ofName_eq_unknown_iff : ofName name = unknown ↔ name ∉ knownNames := by
  constructor
  · intro isUnknown listed
    have sameName := name_ofName_of_mem listed
    rw [isUnknown] at sameName
    exact absurd (sameName ▸ listed) (by decide : unknown.name ∉ knownNames)
  · intro unlisted
    rw [ofName]
    cases found : all.find? (·.name == name) with
    | none => rfl
    | some status =>
      have named := List.find?_some found
      obtain rfl : status.name = name := eq_of_beq named
      cases status with
      | unknown => rfl
      | _ => exact absurd (by decide) unlisted

/-- Names that have a status are told apart, and all others fall together. -/
theorem ofName_eq_ofName_iff :
    ofName name = ofName name' ↔ name = name' ∨ name ∉ knownNames ∧ name' ∉ knownNames := by
  constructor
  · intro same
    by_cases listed : name ∈ knownNames
    · have listed' : name' ∈ knownNames := by
        by_contra unlisted'
        have isUnknown := same.trans (ofName_eq_unknown_iff.2 unlisted')
        exact ofName_eq_unknown_iff.1 isUnknown listed
      left
      calc name = (ofName name).name := (name_ofName_of_mem listed).symm
        _ = (ofName name').name := congrArg TransactionStatus.name same
        _ = name' := name_ofName_of_mem listed'
    · have isUnknown := ofName_eq_unknown_iff.2 listed
      exact .inr ⟨listed, ofName_eq_unknown_iff.1 (same.symm.trans isUnknown)⟩
  · rintro (rfl | ⟨unlisted, unlisted'⟩)
    · rfl
    · rw [ofName_eq_unknown_iff.2 unlisted, ofName_eq_unknown_iff.2 unlisted']

end TransactionStatus

/-! ## How requests are shown -/

namespace ConfirmationKind

open ApprovalType (ofName ofName_eq_iff_of_isKnown)

variable {name : String}

theorem ofApproval_ofName_eq_signature_iff :
    ofApproval (ofName name) = signature ↔ name = "personal_sign" ∨ name = "eth_signTypedData" := by
  rw [ofApproval_eq_signature_iff, ofName_eq_iff_of_isKnown rfl, ofName_eq_iff_of_isKnown rfl]
  rfl

theorem ofApproval_ofName_eq_transaction_iff :
    ofApproval (ofName name) = transaction ↔ name = "transaction" := by
  rw [ofApproval_eq_transaction_iff, ofName_eq_iff_of_isKnown rfl]
  rfl

theorem ofApproval_ofName_eq_unsupported_iff :
    ofApproval (ofName name) = unsupported ↔
      name ∉ ["personal_sign", "eth_signTypedData", "transaction"] := by
  rw [ofApproval_eq_unsupported_iff, ofName_eq_iff_of_isKnown rfl, ofName_eq_iff_of_isKnown rfl,
    ofName_eq_iff_of_isKnown rfl]
  simp [ApprovalType.name]

/-- The casing of a name counts. -/
example : ofApproval (ofName "Transaction") = unsupported := by decide

end ConfirmationKind

/-- **No name of a kind is lost.**  What is read from a name, or from its text, is written as that
name again, so two names never have one kind, while all names that no status of transactions has are
read as one status.  A kind is read back from its name unless it keeps one of the seven names that
have a kind of their own; all names but those seven are kept as they are.  Requests are shown as
signatures under just two names and as transactions under just one, and else not at all. -/
theorem ApprovalType.ofName_lossless :
    (∀ name, (ofName name).name = name) ∧
    (∀ name, codec.parse (Json.string name).compact = .ok (ofName name) ∧
      codec.encode (ofName name) = .string name) ∧
    (∀ name name', ofName name = ofName name' ↔ name = name') ∧
    (∀ name name', TransactionStatus.ofName name = TransactionStatus.ofName name' ↔
      name = name' ∨
        name ∉ TransactionStatus.knownNames ∧ name' ∉ TransactionStatus.knownNames) ∧
    (∀ kind, ofName kind.name = kind ↔ kind ∉ knownNames.map other) ∧
    (∀ name kept, ofName name = other kept ↔ kept = name ∧ name ∉ knownNames) ∧
    ∀ name,
      (ConfirmationKind.ofApproval (ofName name) = .signature ↔
        name = "personal_sign" ∨ name = "eth_signTypedData") ∧
      (ConfirmationKind.ofApproval (ofName name) = .transaction ↔ name = "transaction") ∧
      (ConfirmationKind.ofApproval (ofName name) = .unsupported ↔
        name ∉ ["personal_sign", "eth_signTypedData", "transaction"]) := by
  refine ⟨name_ofName, ?_, ?_, ?_, ?_, ?_, ?_⟩
  · intro name
    exact ⟨codec_parse_string name, codec_encode_ofName name⟩
  · intro name name'
    exact ofName_eq_ofName_iff
  · intro name name'
    exact TransactionStatus.ofName_eq_ofName_iff
  · intro kind
    exact ofName_name_iff
  · intro name kept
    exact ofName_eq_other_iff
  · intro name
    exact ⟨ConfirmationKind.ofApproval_ofName_eq_signature_iff,
      ConfirmationKind.ofApproval_ofName_eq_transaction_iff,
      ConfirmationKind.ofApproval_ofName_eq_unsupported_iff⟩

end WalletView
