/-
# Exposure.SortKey — what accounts are ordered by

Accounts selected later come first, accounts never selected last.  Among accounts selected at
one time, or never, the place in the keyrings decides, and accounts in no keyring come last.
-/
import WalletView.Exposure.AllowList
import WalletView.Wallet.Account

set_option autoImplicit false

namespace WalletView

/-- Where an address stands in the keyrings: how many addresses stand before it, or nowhere. -/
inductive KeyringPlace where
  | listed (before : Nat)
  | unlisted
deriving DecidableEq, Repr, Inhabited

namespace KeyringPlace

def compare : KeyringPlace → KeyringPlace → Ordering
  | listed m, listed n => Ord.compare m n
  | listed _, unlisted => .lt
  | unlisted, listed _ => .gt
  | unlisted, unlisted => .eq

end KeyringPlace

/-- The place of an address in the keyrings, one after another. -/
def keyringPlace (keyrings : List KeyringGroup) (address : Address) : KeyringPlace :=
  match (keyrings.flatMap KeyringGroup.accounts).findIdx? (addressesMatch · address) with
  | some before => .listed before
  | none => .unlisted

/-- What an account is ordered by. -/
structure SortKey where
  lastSelected : Option UInt64
  place : KeyringPlace
deriving DecidableEq, Repr, Inhabited

namespace SortKey

/-- Later before earlier before never. -/
def compareRecency : Option UInt64 → Option UInt64 → Ordering
  | some s, some t => Ord.compare t s
  | some _, none => .lt
  | none, some _ => .gt
  | none, none => .eq

def compare (a b : SortKey) : Ordering :=
  (compareRecency a.lastSelected b.lastSelected).then (a.place.compare b.place)

/-- Whether one may stand before the other. -/
def le (a b : SortKey) : Bool :=
  (a.compare b).isLE

/-- Whether one must stand before the other. -/
def lt (a b : SortKey) : Bool :=
  (a.compare b).isLT

end SortKey

/-- A list sorted by keys; what has one key stays in its order. -/
def sortByKey {α : Type} (key : α → SortKey) (items : List α) : List α :=
  items.mergeSort fun a b => (key a).le (key b)

/-- What an account is ordered by. -/
def AccountRecord.sortKey (keyrings : List KeyringGroup) (account : AccountRecord) : SortKey :=
  ⟨account.metadata.lastSelected, keyringPlace keyrings account.address⟩

end WalletView
