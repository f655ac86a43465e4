/-
# Wallet.Transaction — transactions and where they stand

Status and type are read by name; a name that is not one of theirs stands for *unknown*, so
the name itself is not kept.
-/
import WalletView.Wallet.Network
import WalletView.Text.Ascii

set_option autoImplicit false

namespace WalletView

/-- Where a transaction stands. -/
inductive TransactionStatus where
  | unapproved
  | approved
  | signed
  | submitted
  | confirmed
  | failed
  | rejected
  | dropped
  | unknown
deriving DecidableEq, Repr, Inhabited

namespace TransactionStatus

def name : TransactionStatus → String
  | unapproved => "unapproved"
  | approved => "approved"
  | signed => "signed"
  | submitted => "submitted"
  | confirmed => "confirmed"
  | failed => "failed"
  | rejected => "rejected"
  | dropped => "dropped"
  | unknown => "unknown"

def all : List TransactionStatus :=
  [unapproved, approved, signed, submitted, confirmed, failed, rejected, dropped, unknown]

def ofName (name : String) : TransactionStatus :=
  (all.find? (·.name == name)).getD unknown

def codec : Json.Codec TransactionStatus :=
  .cases ofName name

end TransactionStatus

/-- The kind of a transaction. -/
inductive TransactionType where
  | cancel
  | contractInteraction
  | deployContract
  | retry
  | simpleSend
  | swap
  | swapApproval
  | tokenMethodApprove
  | tokenMethodSetApprovalForAll
  | tokenMethodTransfer
  | tokenMethodTransferFrom
  | tokenMethodSafeTransferFrom
  | unknown
deriving DecidableEq, Repr, Inhabited

namespace TransactionType

def name : TransactionType → String
  | cancel => "cancel"
  | contractInteraction => "contractInteraction"
  | deployContract => "deployContract"
  | retry => "retry"
  | simpleSend => "simpleSend"
  | swap => "swap"
  | swapApproval => "swapApproval"
  | tokenMethodApprove => "tokenMethodApprove"
  | tokenMethodSetApprovalForAll => "tokenMethodSetApprovalForAll"
  | tokenMethodTransfer => "tokenMethodTransfer"
  | tokenMethodTransferFrom => "tokenMethodTransferFrom"
  | tokenMethodSafeTransferFrom => "tokenMethodSafeTransferFrom"
  | unknown => "unknown"

def all : List TransactionType :=
  [cancel, contractInteraction, deployContract, retry, simpleSend, swap, swapApproval,
    tokenMethodApprove, tokenMethodSetApprovalForAll, tokenMethodTransfer,
    tokenMethodTransferFrom, tokenMethodSafeTransferFrom, unknown]

def ofName (name : String) : TransactionType :=
  (all.find? (·.name == name)).getD unknown

/-- A type as it is shown. -/
def describe (t : TransactionType) : String :=
  Text.capitalized t.name

def codec : Json.Codec TransactionType :=
  .cases ofName name

end TransactionType

/-- A transaction. -/
structure TransactionRecord where
  id : String
  chainId : ChainId
  status : TransactionStatus
  kind : Option TransactionType
  time : Option UInt64
deriving DecidableEq, Repr, Inhabited

def TransactionRecord.codec : Json.Codec TransactionRecord :=
  .record "TransactionRecord"
    (.cons (.required "id" .string) <|
     .cons (.required "chainId" ChainId.codec) <|
     .cons (.required "status" TransactionStatus.codec) <|
     .cons (.optional "type" TransactionType.codec) <|
     .cons (.optional "time" .word) .nil)
    (fun (id, chainId, status, kind, time, ()) => { id, chainId, status, kind, time })
    (fun t => (t.id, t.chainId, t.status, t.kind, t.time, ()))

end WalletView
