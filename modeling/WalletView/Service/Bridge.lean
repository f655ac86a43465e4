/-
# Service.Bridge — eligibility, remembered

One selector, which depends on the active network, the bridge form and the flags.
-/
import WalletView.Bridge.Eligibility
import WalletView.Memo.Selector

set_option autoImplicit false

namespace WalletView

/-- What the use of a bridge depends on. -/
abbrev bridgeInputs : Dependency :=
  .triple (.slice ProviderConfig) (.slice BridgeState) (.slice FeatureFlags)

/-- The view of the bridge and what it remembers. -/
structure BridgeEligibilityService where
  eligibility : Selector bridgeInputs BridgeEligibility

namespace BridgeEligibilityService

/-- A service that remembers nothing yet. -/
def new : BridgeEligibilityService where
  eligibility := .new "is_bridge_transaction"

/-- Whether a bridge is used in a snapshot, or why not. -/
def explain (b : BridgeEligibilityService) (s : Snapshot Shared) :
    Allocating (Shared BridgeEligibility × BridgeEligibilityService) := do
  let (answer, eligibility) ← b.eligibility.select (s.providerConfig, s.bridge, s.featureFlags)
    fun (provider, bridge, flags) => evaluateBridge provider.value bridge.value.toChain flags.value
  return (answer, { eligibility })

/-- Whether a bridge is used in a snapshot. -/
def isBridgeTransaction (b : BridgeEligibilityService) (s : Snapshot Shared) :
    Allocating (Bool × BridgeEligibilityService) := do
  let (answer, b) ← b.explain s
  return (answer.value.isEligible, b)

/-- A service as it is shown. -/
def describe (b : BridgeEligibilityService) : String :=
  "BridgeEligibilityService \x7b eligibility: " ++ b.eligibility.describe ++ " \x7d"

end BridgeEligibilityService

end WalletView
