/-
# Confirmation.Resolution — from a queued request to what is confirmed

Resolving a request asks one question after another, and the first that is answered badly is the
outcome:

* does the gate let the request through;
* is there a message, personal ones before typed ones, or a transaction under the request's id;
* for a message: is it no sign-in message;
* for a transaction: is it on the active chain, is it unapproved, is its type not excluded.

If all are answered well, the resolution carries the message or transaction itself.
-/
import WalletView.Confirmation.Trace
import WalletView.Confirmation.Target
import WalletView.Wallet.Snapshot

set_option autoImplicit false

namespace WalletView

/-- Which types of transactions are never shown. -/
structure ResolverConfig where
  excludedTypes : List TransactionType
deriving DecidableEq, Repr

namespace ResolverConfig

/-- Cancellations and retries are not shown. -/
def standard : ResolverConfig := ⟨[.cancel, .retry]⟩

instance : Inhabited ResolverConfig := ⟨standard⟩

def codec : Json.Codec ResolverConfig :=
  .record "ResolverConfig"
    (.cons (.required "excluded_transaction_types" TransactionType.codec.list) .nil)
    (fun (excludedTypes, ()) => { excludedTypes })
    (fun c => (c.excludedTypes, ()))

/-- Whether a type is excluded; a transaction without a type never is. -/
def excludes (c : ResolverConfig) (kind : Option TransactionType) : Bool :=
  kind.any c.excludedTypes.contains

/-- A configuration as it is shown. -/
def describe (c : ResolverConfig) : String :=
  "ResolverConfig \x7b excluded_transaction_types: ["
    ++ ", ".intercalate (c.excludedTypes.map TransactionType.describe) ++ "] \x7d"

end ResolverConfig

/-- What a request is resolved against. -/
structure ResolutionInputs (Hold : Type → Type) where
  personalMessages : SortedMap (Hold SignableMessage)
  typedMessages : SortedMap (Hold SignableMessage)
  transactions : List (Hold TransactionRecord)
  providerConfig : ProviderConfig
  preferences : Preferences
  featureFlags : FeatureFlags

section Held

variable {Hold : Type → Type} [Holding Hold]

namespace ResolutionInputs

/-- The message under an id, personal messages before typed ones. -/
def findMessage? (inputs : ResolutionInputs Hold) (id : String) : Option (Hold SignableMessage) :=
  inputs.personalMessages.get? id <|> inputs.typedMessages.get? id

/-- The first transaction with an id. -/
def findTransaction? (inputs : ResolutionInputs Hold) (id : String) :
    Option (Hold TransactionRecord) :=
  inputs.transactions.find? fun t => (Holding.value t).id == id

end ResolutionInputs

/-- What a snapshot's requests are resolved against. -/
def Snapshot.resolutionInputs (s : Snapshot Hold) : ResolutionInputs Hold where
  personalMessages := Holding.value s.unapprovedPersonalMsgs
  typedMessages := Holding.value s.unapprovedTypedMessages
  transactions := Holding.value s.transactions
  providerConfig := Holding.value s.providerConfig
  preferences := Holding.value s.preferences
  featureFlags := Holding.value s.featureFlags

/-- Resolves a request to sign that the gate has let through. -/
def resolveMessage (approval : PendingApproval) (inputs : ResolutionInputs Hold) :
    ResolutionTrace Hold :=
  match inputs.findMessage? approval.id with
  | none => .absent approval.id .signature .messageMissing
  | some message =>
    if (Holding.value message).isSiwe then .absent approval.id .signature .siweExcluded
    else .resolved (.signature message)

/-- Resolves a request for a transaction that the gate has let through. -/
def resolveTransaction (approval : PendingApproval) (inputs : ResolutionInputs Hold)
    (config : ResolverConfig) : ResolutionTrace Hold :=
  match inputs.findTransaction? approval.id with
  | none => .absent approval.id .transaction .transactionMissing
  | some transaction =>
    let record := Holding.value transaction
    if record.chainId ≠ inputs.providerConfig.chainId then
      .absent approval.id .transaction .chainMismatch
    else if record.status ≠ .unapproved then .absent approval.id .transaction .notUnapproved
    else if config.excludes record.kind then
      .absent approval.id .transaction .excludedTransactionType
    else .resolved (.transaction transaction)

/-- Resolves a request. -/
def resolveApproval (approval : PendingApproval) (inputs : ResolutionInputs Hold)
    (config : ResolverConfig) : ResolutionTrace Hold :=
  let kind := ConfirmationKind.ofApproval approval.kind
  match evaluateGate kind inputs.preferences inputs.featureFlags with
  | .allowed =>
    match kind with
    | .signature => resolveMessage approval inputs
    | .transaction => resolveTransaction approval inputs config
    | .unsupported => .absent approval.id kind (.gated .unsupportedType)
  | decision => .absent approval.id kind (.gated decision)

/-- Resolves the request that was selected, if any was. -/
def resolveTarget (target : Option PendingApproval) (inputs : ResolutionInputs Hold)
    (config : ResolverConfig) : ResolutionTrace Hold :=
  match target with
  | none => .noTarget
  | some approval => resolveApproval approval inputs config

/-- Resolves what a route means in a snapshot. -/
def resolve (s : Snapshot Hold) (route : Option String) (config : ResolverConfig) :
    ResolutionTrace Hold :=
  resolveTarget (selectTarget (Holding.value s.pendingApprovals) route) s.resolutionInputs config

end Held

end WalletView
