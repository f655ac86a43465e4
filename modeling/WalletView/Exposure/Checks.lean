/-
# Exposure.Checks — what a list of exposed accounts must satisfy

Three checks on a list of accounts, made in this order: each of them is on the allow-list, none
stands before one that must stand before it, and every account on the allow-list is there once.
-/
import WalletView.Exposure.Ordering

set_option autoImplicit false

namespace WalletView

/-- Every account is on the allow-list. -/
def areScoped (ordered : List AccountRecord) (permitted : List Address) : Bool :=
  ordered.all fun account => isPermitted permitted account.address

/-- No account stands before one that must stand before it. -/
def areInOrder (keyrings : List KeyringGroup) : List AccountRecord → Bool
  | a :: b :: more =>
    (a.sortKey keyrings).le (b.sortKey keyrings) && areInOrder keyrings (b :: more)
  | _ => true

/-- How many different texts there are: those left when the texts are put in order and what equals
its neighbour is dropped. -/
def countDistinct (texts : List String) : Nat :=
  (texts.mergeSort fun a b => decide (a ≤ b)).eraseReps.length

/-- There are as many accounts as the allow-list lets through, and as many ids as accounts. -/
def haveOneEntryPerRecord (ordered : List AccountRecord) (permitted : List Address)
    (accounts : InternalAccounts) : Bool :=
  ordered.length ==
      (accounts.accounts.values.filter fun account => isPermitted permitted account.address).length
    && countDistinct (ordered.map AccountRecord.id) == ordered.length

/-- The checks on a list of accounts. -/
inductive ExposureCheck
  | onAllowList
  | inOrder
  | oneEntryPerRecord
deriving DecidableEq, Repr

/-- The first check that a list of accounts computed from given inputs fails; the computation goes
no further than that, where it is checked. -/
def OrderingInputs.failedCheck? (inputs : OrderingInputs) (ordered : List AccountRecord) :
    Option ExposureCheck :=
  if !areScoped ordered inputs.permitted then some .onAllowList
  else if !areInOrder inputs.keyrings ordered then some .inOrder
  else if !haveOneEntryPerRecord ordered inputs.permitted inputs.accounts then
    some .oneEntryPerRecord
  else none

end WalletView
