/-
# Wallet.Account — accounts and the keyrings that hold them

An account is known by its id; two accounts may share an address.  A keyring lists the addresses
it holds in the order in which it holds them.
-/
import WalletView.Wallet.Message

set_option autoImplicit false

namespace WalletView

/-- The kind of keyring an account belongs to. -/
structure KeyringInfo where
  kind : String
deriving DecidableEq, Repr, Inhabited

def KeyringInfo.codec : Json.Codec KeyringInfo :=
  .record "KeyringInfo"
    (.cons (.required "type" .string) .nil)
    (fun (kind, ()) => { kind })
    (fun k => (k.kind, ()))

/-- What the wallet notes about an account. -/
structure AccountMetadata where
  name : String
  lastSelected : Option UInt64
  lastActive : Option UInt64
  keyring : KeyringInfo
deriving DecidableEq, Repr, Inhabited

namespace AccountMetadata

def empty : AccountMetadata := ⟨"", none, none, ⟨""⟩⟩

def codec : Json.Codec AccountMetadata :=
  .record "AccountMetadata"
    (.cons (.required "name" .string) <|
     .cons (.optional "lastSelected" .word) <|
     .cons (.optional "lastActive" .word) <|
     .cons (.withDefault "keyring" KeyringInfo.codec ⟨""⟩) .nil)
    (fun (name, lastSelected, lastActive, keyring, ()) =>
      { name, lastSelected, lastActive, keyring })
    (fun m => (m.name, m.lastSelected, m.lastActive, m.keyring, ()))

end AccountMetadata

/-- An account. -/
structure AccountRecord where
  id : String
  address : Address
  metadata : AccountMetadata
  options : SortedMap Json
  methods : List String
  kind : String
deriving Repr, Inhabited

def AccountRecord.codec : Json.Codec AccountRecord :=
  .record "AccountRecord"
    (.cons (.required "id" .string) <|
     .cons (.required "address" .string) <|
     .cons (.withDefault "metadata" AccountMetadata.codec .empty) <|
     .cons (.withDefault "options" (Json.Codec.sortedMap .any) .empty) <|
     .cons (.withDefault "methods" (Json.Codec.list .string) []) <|
     .cons (.withDefault "type" .string "") .nil)
    (fun (id, address, metadata, options, methods, kind, ()) =>
      { id, address, metadata, options, methods, kind })
    (fun a => (a.id, a.address, a.metadata, a.options, a.methods, a.kind, ()))

/-- The accounts and which of them is selected. -/
structure InternalAccounts where
  accounts : IdMap AccountRecord
  selectedAccount : String
deriving Repr, Inhabited

namespace InternalAccounts

def empty : InternalAccounts := ⟨.empty, ""⟩

/-- The selected account, if its id names one. -/
def selected? (a : InternalAccounts) : Option AccountRecord :=
  a.accounts.get? a.selectedAccount

def codec : Json.Codec InternalAccounts :=
  .record "InternalAccounts"
    (.cons (.withDefault "accounts" AccountRecord.codec.idMap .empty) <|
     .cons (.withDefault "selectedAccount" .string "") .nil)
    (fun (accounts, selectedAccount, ()) => { accounts, selectedAccount })
    (fun a => (a.accounts, a.selectedAccount, ()))

end InternalAccounts

/-- A group of addresses held together, in order. -/
structure KeyringGroup where
  kind : Option String
  accounts : List Address
deriving DecidableEq, Repr, Inhabited

def KeyringGroup.codec : Json.Codec KeyringGroup :=
  .record "KeyringGroup"
    (.cons (.optional "type" .string) <|
     .cons (.withDefault "accounts" (Json.Codec.list .string) []) .nil)
    (fun (kind, accounts, ()) => { kind, accounts })
    (fun g => (g.kind, g.accounts, ()))

end WalletView
