/-
# Confirmation.Gate — which requests may be shown at all

A request is shown as a *signature*, as a *transaction*, or not at all.  The gate decides by the
settings alone:

* while the user has not chosen the redesigned confirmations, nothing passes;
* a signature passes then;
* a transaction also needs the developers' flag;
* a request of any other kind never passes.
-/
import WalletView.Wallet.Settings
import WalletView.Text.Ascii

set_option autoImplicit false

namespace WalletView

/-- How a request is shown. -/
inductive ConfirmationKind where
  | signature
  | transaction
  | unsupported
deriving DecidableEq, Repr, Inhabited

namespace ConfirmationKind

def name : ConfirmationKind → String
  | signature => "signature"
  | transaction => "transaction"
  | unsupported => "unsupported"

def all : List ConfirmationKind :=
  [signature, transaction, unsupported]

def ofName? (name : String) : Option ConfirmationKind :=
  all.find? (·.name == name)

/-- A kind as it is shown. -/
def describe (k : ConfirmationKind) : String :=
  Text.capitalized k.name

/-- How a queued request of a type is shown. -/
def ofApproval : ApprovalType → ConfirmationKind
  | .personalSign | .ethSignTypedData => signature
  | .transaction => transaction
  | _ => unsupported

end ConfirmationKind

/-- What the gate says: to go on, or what stands against it. -/
inductive GateDecision where
  | allowed
  | userPreferenceDisabled
  | developerFeatureDisabled
  | unsupportedType
deriving DecidableEq, Repr, Inhabited

namespace GateDecision

def name : GateDecision → String
  | allowed => "allowed"
  | userPreferenceDisabled => "userPreferenceDisabled"
  | developerFeatureDisabled => "developerFeatureDisabled"
  | unsupportedType => "unsupportedType"

/-- A decision as it is shown. -/
def describe (d : GateDecision) : String :=
  Text.capitalized d.name

def isAllowed (d : GateDecision) : Bool :=
  d == allowed

/-- The decision as an object: whether the gate lets through, and why. -/
def encode (d : GateDecision) : Json :=
  .object [("allowed", .bool d.isAllowed), ("reason", .string d.name)]

end GateDecision

/-- What the gate says about a request of a kind under some settings. -/
def evaluateGate (kind : ConfirmationKind) (preferences : Preferences) (flags : FeatureFlags) :
    GateDecision :=
  if preferences.redesignedConfirmationsEnabled then
    match kind with
    | .signature => .allowed
    | .transaction =>
      if flags.isRedesignedConfirmationsFeatureEnabled then .allowed else .developerFeatureDisabled
    | .unsupported => .unsupportedType
  else .userPreferenceDisabled

end WalletView
