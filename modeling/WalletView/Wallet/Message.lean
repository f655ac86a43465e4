/-
# Wallet.Message — requests to sign a message

A message may carry the result of checking it as a sign-in request; one that was recognised as
such is a *sign-in message*.
-/
import WalletView.Wallet.Approval

set_option autoImplicit false

namespace WalletView

/-- The address of an account, in hexadecimal as the wallet's state has it. -/
abbrev Address := String

/-- The result of checking a message as a sign-in request. -/
structure SiweMetadata where
  isSiweMessage : Bool
deriving DecidableEq, Repr, Inhabited

/-- What is to be signed, and for whom. -/
structure MessageParams where
  data : Option Json
  origin : Option Origin
  signer : Option Address
  siwe : Option SiweMetadata
deriving Repr, Inhabited

/-- A request to sign a message. -/
structure SignableMessage where
  id : String
  params : MessageParams
deriving Repr, Inhabited

def SiweMetadata.codec : Json.Codec SiweMetadata :=
  .record "SiweMetadata"
    (.cons (.withDefault "isSIWEMessage" .boolean false) .nil)
    (fun (isSiweMessage, ()) => { isSiweMessage })
    (fun m => (m.isSiweMessage, ()))

namespace MessageParams

def empty : MessageParams := ⟨none, none, none, none⟩

def codec : Json.Codec MessageParams :=
  .record "MessageParams"
    (.cons (.optional "data" .any) <|
     .cons (.optional "origin" .string) <|
     .cons (.optional "from" .string) <|
     .cons (.optional "siwe" SiweMetadata.codec) .nil)
    (fun (data, origin, signer, siwe, ()) => { data, origin, signer, siwe })
    (fun p => (p.data, p.origin, p.signer, p.siwe, ()))

/-- Equality by value. -/
def same (p q : MessageParams) : Bool :=
  (match p.data, q.data with
    | some a, some b => a.same b
    | none, none => true
    | _, _ => false)
  && p.origin == q.origin && p.signer == q.signer && p.siwe == q.siwe

end MessageParams

namespace SignableMessage

/-- Whether the message was recognised as a sign-in request. -/
def isSiwe (m : SignableMessage) : Bool :=
  m.params.siwe.any SiweMetadata.isSiweMessage

def codec : Json.Codec SignableMessage :=
  .record "SignableMessage"
    (.cons (.required "id" .string) <|
     .cons (.withDefault "msgParams" MessageParams.codec .empty) .nil)
    (fun (id, params, ()) => { id, params })
    (fun m => (m.id, m.params, ()))

/-- Equality by value. -/
def same (m n : SignableMessage) : Bool :=
  m.id == n.id && m.params.same n.params

end SignableMessage

end WalletView
