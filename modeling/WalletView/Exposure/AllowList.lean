/-
# Exposure.AllowList — the addresses a site may see

A site may see the addresses that a caveat on its account capability lists, in the order of the
caveat.  A site that is not known, has no such capability or no such caveat may see none.

Addresses match when they differ at most in the case of their letters.
-/
import WalletView.Wallet.Permission
import WalletView.Text.Ascii

set_option autoImplicit false

namespace WalletView

/-- Whether two addresses are one, whatever the case of their letters. -/
def addressesMatch (a b : Address) : Bool :=
  Text.matchesAnyCase a b

/-- Whether an address matches one of a list. -/
def isPermitted (permitted : List Address) (address : Address) : Bool :=
  permitted.any fun p => addressesMatch p address

/-- The names under which permissions expose accounts. -/
structure OrderingConfig where
  /-- The capability that exposes accounts. -/
  accountsCapability : String
  /-- The caveat on it that lists the addresses. -/
  allowListCaveat : String
deriving DecidableEq, Repr

namespace OrderingConfig

def standard : OrderingConfig := ⟨"eth_accounts", "restrictReturnedAccounts"⟩

instance : Inhabited OrderingConfig := ⟨standard⟩

def codec : Json.Codec OrderingConfig :=
  .record "OrderingConfig"
    (.cons (.required "eth_accounts_capability" .string) <|
     .cons (.required "restrict_returned_accounts_caveat" .string) .nil)
    (fun (accountsCapability, allowListCaveat, ()) => { accountsCapability, allowListCaveat })
    (fun c => (c.accountsCapability, c.allowListCaveat, ()))

/-- A configuration as it is shown. -/
def describe (c : OrderingConfig) : String :=
  "OrderingConfig \x7b eth_accounts_capability: " ++ Text.quoted c.accountsCapability
    ++ ", restrict_returned_accounts_caveat: " ++ Text.quoted c.allowListCaveat ++ " \x7d"

end OrderingConfig

/-- The addresses a site may see. -/
def Subject.permittedAccounts (s : Subject) (config : OrderingConfig) : List Address :=
  match s.permissions.get? config.accountsCapability with
  | none => []
  | some permission =>
    match permission.caveat? config.allowListCaveat with
    | none => []
    | some caveat => caveat.addresses

/-- The addresses the site at an origin may see. -/
def permittedAccounts (subjects : IdMap Subject) (origin : Origin) (config : OrderingConfig) :
    List Address :=
  match subjects.get? origin with
  | none => []
  | some subject => subject.permittedAccounts config

end WalletView
