/-
# Proofs.Wallet.Faithful — messages and transactions are told by what is written of them

No two messages are written as one value, and no two transactions: one lemma for each codec, in the
order in which they are built.  A message is written as it is, in whatever shape its data are.
-/
import WalletView.Proofs.Wallet.Codec
import WalletView.Proofs.Json.Faithful

set_option autoImplicit false

namespace WalletView

open Json.Codec Json.Field

/-! ## Messages -/

theorem SiweMetadata.encode_injective : Function.Injective codec.encode :=
  record_encode_injective
    ⟨withDefault_tells _ boolean_encode_injective _, trivial⟩
    (by decide) fun _ => rfl

theorem MessageParams.encode_injective : Function.Injective codec.encode :=
  record_encode_injective
    ⟨optional_tells _ any_encode_injective,
      optional_tells _ string_encode_injective,
      optional_tells _ string_encode_injective,
      optional_tells _ SiweMetadata.encode_injective, trivial⟩
    (by decide) fun _ => rfl

theorem SignableMessage.encode_injective : Function.Injective codec.encode :=
  record_encode_injective
    ⟨required_tells _ string_encode_injective,
      withDefault_tells _ MessageParams.encode_injective _, trivial⟩
    (by decide) fun _ => rfl

/-! ## Transactions -/

theorem ChainId.encode_injective : Function.Injective codec.encode :=
  via_encode_injective string_encode_injective fun _ => rfl

theorem TransactionStatus.encode_injective : Function.Injective codec.encode :=
  cases_encode_injective ofName_name

theorem TransactionType.encode_injective : Function.Injective codec.encode :=
  cases_encode_injective ofName_name

theorem TransactionRecord.encode_injective : Function.Injective codec.encode :=
  record_encode_injective
    ⟨required_tells _ string_encode_injective,
      required_tells _ ChainId.encode_injective,
      required_tells _ TransactionStatus.encode_injective,
      optional_tells _ TransactionType.encode_injective,
      optional_tells _ word_encode_injective, trivial⟩
    (by decide) fun _ => rfl

end WalletView
