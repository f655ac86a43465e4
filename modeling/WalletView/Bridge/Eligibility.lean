/-
# Bridge.Eligibility — whether assets are about to cross a bridge

A bridge is used when it is switched on, services of third parties may be called, a destination
is picked and the destination is another chain than the active one.  The conditions are asked in
this order, and the first that fails is the reason.
-/
import WalletView.Wallet.Snapshot
import WalletView.Text.Ascii

set_option autoImplicit false

namespace WalletView

/-- Whether a bridge is used, or why not. -/
inductive BridgeEligibility where
  | eligible
  | featureDisabled
  | externalServicesDisabled
  | noDestination
  | sameChain
deriving DecidableEq, Repr, Inhabited

namespace BridgeEligibility

def name : BridgeEligibility → String
  | eligible => "eligible"
  | featureDisabled => "featureDisabled"
  | externalServicesDisabled => "externalServicesDisabled"
  | noDestination => "noDestination"
  | sameChain => "sameChain"

/-- The reason as it is shown. -/
def describe (e : BridgeEligibility) : String :=
  Text.capitalized e.name

def isEligible (e : BridgeEligibility) : Bool :=
  e == eligible

def encode (e : BridgeEligibility) : Json :=
  .object [("eligible", .bool e.isEligible), ("reason", .string e.name)]

end BridgeEligibility

/-- Whether the settings let a bridge be used at all. -/
def FeatureFlags.isBridgeEnabled (flags : FeatureFlags) : Bool :=
  flags.bridgeFeatureFlags.extensionSupport && flags.useExternalServices

/-- Whether a bridge is used between two networks. -/
def evaluateBridge (source : ProviderConfig) (destination : Option ProviderConfig)
    (flags : FeatureFlags) : BridgeEligibility :=
  if !flags.bridgeFeatureFlags.extensionSupport then .featureDisabled
  else if !flags.useExternalServices then .externalServicesDisabled
  else
    match destination with
    | none => .noDestination
    | some destination =>
      if destination.chainId = source.chainId then .sameChain else .eligible

namespace Snapshot

variable {Hold : Type → Type} [Holding Hold]

/-- The active network. -/
def sourceChain (s : Snapshot Hold) : ProviderConfig :=
  Holding.value s.providerConfig

/-- The network picked as destination. -/
def destinationChain? (s : Snapshot Hold) : Option ProviderConfig :=
  (Holding.value s.bridge).toChain

end Snapshot

end WalletView
