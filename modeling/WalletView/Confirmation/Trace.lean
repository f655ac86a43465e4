/-
# Confirmation.Trace — what was to be confirmed and how that ended

A resolution ends with a confirmation or with the reason why there is none.  Its trace keeps
the id of the request it was about, how that request is shown, the outcome, and the confirmation
itself: the message or transaction as the snapshot holds it, not a copy.
-/
import WalletView.Confirmation.Gate
import WalletView.Wallet.Transaction
import WalletView.Wallet.Message
import WalletView.Memo.Shared

set_option autoImplicit false

namespace WalletView

/-- How a resolution ended. -/
inductive ResolutionOutcome where
  | resolved
  /-- No request is queued, or none under the id asked for. -/
  | noTarget
  | gated (decision : GateDecision)
  | messageMissing
  /-- A sign-in message is shown elsewhere. -/
  | siweExcluded
  | transactionMissing
  | chainMismatch
  | notUnapproved
  | excludedTransactionType
deriving DecidableEq, Repr, Inhabited

namespace ResolutionOutcome

def name : ResolutionOutcome → String
  | resolved => "resolved"
  | noTarget => "noTarget"
  | gated _ => "gated"
  | messageMissing => "messageMissing"
  | siweExcluded => "siweExcluded"
  | transactionMissing => "transactionMissing"
  | chainMismatch => "chainMismatch"
  | notUnapproved => "notUnapproved"
  | excludedTransactionType => "excludedTransactionType"

def isResolved (o : ResolutionOutcome) : Bool :=
  o == resolved

/-- What the gate said, if it ended the resolution. -/
def decision? : ResolutionOutcome → Option GateDecision
  | gated decision => some decision
  | _ => none

/-- An outcome as it is shown. -/
def describe (o : ResolutionOutcome) : String :=
  match o.decision? with
  | some decision => Text.capitalized o.name ++ "(" ++ decision.describe ++ ")"
  | none => Text.capitalized o.name

/-- An outcome as an object: its name, and the gate's decision if that was the cause. -/
def encode (o : ResolutionOutcome) : Json :=
  match o.decision? with
  | some decision => .object [("outcome", .string o.name), ("reason", .string decision.name)]
  | none => .object [("outcome", .string o.name)]

end ResolutionOutcome

/-- What the user is asked to confirm. -/
inductive Confirmation (Hold : Type → Type) where
  | signature (message : Hold SignableMessage)
  | transaction (record : Hold TransactionRecord)

namespace Confirmation

variable {Hold : Type → Type}

def kind : Confirmation Hold → ConfirmationKind
  | signature _ => .signature
  | transaction _ => .transaction

def message? : Confirmation Hold → Option (Hold SignableMessage)
  | signature message => some message
  | transaction _ => none

def transaction? : Confirmation Hold → Option (Hold TransactionRecord)
  | signature _ => none
  | transaction record => some record

variable [Holding Hold]

/-- The id of the message or transaction. -/
def id : Confirmation Hold → String
  | signature message => (Holding.value message).id
  | transaction record => (Holding.value record).id

/-- The values of a confirmation. -/
def values : Confirmation Hold → Confirmation Plain
  | signature message => .signature (Holding.value message)
  | transaction record => .transaction (Holding.value record)

/-- The message or transaction itself; nothing says which of them it is. -/
def encode : Confirmation Hold → Json
  | signature message => SignableMessage.codec.encode (Holding.value message)
  | transaction record => TransactionRecord.codec.encode (Holding.value record)

/-- Equality by value. -/
def same : Confirmation Hold → Confirmation Hold → Bool
  | signature m, signature n => (Holding.value m).same (Holding.value n)
  | transaction t, transaction u => Holding.value t == Holding.value u
  | _, _ => false

end Confirmation

/-- The account of one resolution. -/
structure ResolutionTrace (Hold : Type → Type) where
  approvalId : Option String
  kind : Option ConfirmationKind
  outcome : ResolutionOutcome
  confirmation : Option (Confirmation Hold)

namespace ResolutionTrace

variable {Hold : Type → Type}

/-- There was nothing to resolve. -/
def noTarget : ResolutionTrace Hold :=
  ⟨none, none, .noTarget, none⟩

/-- A request was not resolved. -/
def absent (approvalId : String) (kind : ConfirmationKind) (outcome : ResolutionOutcome) :
    ResolutionTrace Hold :=
  ⟨some approvalId, some kind, outcome, none⟩

variable [Holding Hold]

/-- A request was resolved; the id is that of the message or transaction. -/
def resolved (confirmation : Confirmation Hold) : ResolutionTrace Hold :=
  ⟨some confirmation.id, some confirmation.kind, .resolved, some confirmation⟩

/-- The values of a trace. -/
def values (t : ResolutionTrace Hold) : ResolutionTrace Plain :=
  ⟨t.approvalId, t.kind, t.outcome, t.confirmation.map Confirmation.values⟩

def encode (t : ResolutionTrace Hold) : Json :=
  .object [("approvalId", .ofOption .string t.approvalId),
    ("kind", .ofOption (fun k => .string k.name) t.kind),
    ("outcome", t.outcome.encode),
    ("confirmation", .ofOption Confirmation.encode t.confirmation)]

/-- Equality by value. -/
def same (t u : ResolutionTrace Hold) : Bool :=
  t.approvalId == u.approvalId && t.kind == u.kind && t.outcome == u.outcome
  && (match t.confirmation, u.confirmation with
    | some c, some d => c.same d
    | none, none => true
    | _, _ => false)

end ResolutionTrace

end WalletView
