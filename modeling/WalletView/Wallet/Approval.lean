/-
# Wallet.Approval — requests waiting for the user

An approval is a request that has been queued until the user accepts or rejects it.  It shares
its id with the message or transaction that it is about.  The kinds of requests that this
library knows have cases of their own; any other kind keeps its name.
-/
import WalletView.Json.Record

set_option autoImplicit false

namespace WalletView

/-- The origin of a requesting site, such as `https://remix.ethereum.org`. -/
abbrev Origin := String

/-- The kind of request an approval is waiting on. -/
inductive ApprovalType where
  | personalSign
  | ethSignTypedData
  | transaction
  | ethSign
  | addEthereumChain
  | switchEthereumChain
  | walletRequestPermissions
  | other (name : String)
deriving DecidableEq, Repr, Inhabited

namespace ApprovalType

/-- The name of a kind of request in the wallet's state. -/
def name : ApprovalType → String
  | personalSign => "personal_sign"
  | ethSignTypedData => "eth_signTypedData"
  | transaction => "transaction"
  | ethSign => "eth_sign"
  | addEthereumChain => "wallet_addEthereumChain"
  | switchEthereumChain => "wallet_switchEthereumChain"
  | walletRequestPermissions => "wallet_requestPermissions"
  | other name => name

/-- The kind with the given name. -/
def ofName (name : String) : ApprovalType :=
  match name with
  | "personal_sign" => personalSign
  | "eth_signTypedData" => ethSignTypedData
  | "transaction" => transaction
  | "eth_sign" => ethSign
  | "wallet_addEthereumChain" => addEthereumChain
  | "wallet_switchEthereumChain" => switchEthereumChain
  | "wallet_requestPermissions" => walletRequestPermissions
  | _ => other name

def isKnown : ApprovalType → Bool
  | other _ => false
  | _ => true

/-- The case of a kind, with the name of one that has none of its own. -/
def describe : ApprovalType → String
  | personalSign => "PersonalSign"
  | ethSignTypedData => "EthSignTypedData"
  | transaction => "Transaction"
  | ethSign => "EthSign"
  | addEthereumChain => "AddEthereumChain"
  | switchEthereumChain => "SwitchEthereumChain"
  | walletRequestPermissions => "WalletRequestPermissions"
  | other name => "Other(" ++ Text.quoted name ++ ")"

def codec : Json.Codec ApprovalType :=
  Json.Codec.string.via ofName name

end ApprovalType

/-- A queued request. -/
structure PendingApproval where
  id : String
  kind : ApprovalType
  /-- When the request was queued; a request without a time counts as the oldest. -/
  time : UInt64
  origin : Option Origin
deriving DecidableEq, Repr, Inhabited

namespace PendingApproval

def codec : Json.Codec PendingApproval :=
  .record "PendingApproval"
    (.cons (.required "id" .string) <|
     .cons (.required "type" ApprovalType.codec) <|
     .cons (.withDefault "time" .word 0) <|
     .cons (.optional "origin" .string) .nil)
    (fun (id, kind, time, origin, ()) => { id, kind, time, origin })
    (fun a => (a.id, a.kind, a.time, a.origin, ()))

end PendingApproval

end WalletView
