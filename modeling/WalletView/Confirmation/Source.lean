/-
# Confirmation.Source — the record behind a confirmation

A confirmation carries the snapshot's own record.  Its place in a snapshot is where the snapshot
holds that very allocation: under a key of the personal messages, or else of the typed ones, or
at an index of the transactions.  A record that only looks alike has no place.
-/
import WalletView.Confirmation.Trace
import WalletView.Wallet.Snapshot

set_option autoImplicit false

namespace WalletView

/-- Where a snapshot holds a record. -/
inductive RecordPlace where
  | personalMessage (key : String)
  | typedMessage (key : String)
  | transaction (index : Nat)
deriving DecidableEq, Repr

/-- The first key under which a map holds an allocation. -/
def SortedMap.keyOf? {α : Type} (m : SortedMap (Shared α)) (a : Shared α) : Option String :=
  (m.entries.find? fun entry => entry.2.sameAs a).map Prod.fst

/-- Where a snapshot holds the record of a confirmation. -/
def Snapshot.placeOf? (s : Snapshot Shared) : Confirmation Shared → Option RecordPlace
  | .signature message =>
    (s.unapprovedPersonalMsgs.value.keyOf? message).map .personalMessage
      <|> (s.unapprovedTypedMessages.value.keyOf? message).map .typedMessage
  | .transaction record =>
    (s.transactions.value.findIdx? fun t => t.sameAs record).map .transaction

end WalletView
