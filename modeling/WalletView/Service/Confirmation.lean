/-
# Service.Confirmation — confirmations, remembered

Three selectors: the latest request depends on the queue alone; the target on the queue and the
route; the trace on the target and the six slices that a request is resolved against.  The target
is an input of the trace by identity, so a snapshot that changes none of all these slices gives
the very trace of the call before.

The checks that debug builds assert of a trace when it is computed are left to
`Confirmation.Checks`.
-/
import WalletView.Confirmation.Resolution
import WalletView.Memo.Selector

set_option autoImplicit false

namespace WalletView

/-- What the latest request depends on. -/
abbrev latestInputs : Dependency :=
  .slice (IdMap PendingApproval)

/-- What the request that a route means depends on. -/
abbrev targetInputs : Dependency :=
  .pair (.slice (IdMap PendingApproval)) (.optional .text)

/-- What the resolution of a target depends on. -/
abbrev traceInputs : Dependency :=
  .triple (.slice (Option PendingApproval))
    (.triple (.slice (SortedMap (Shared SignableMessage)))
      (.slice (SortedMap (Shared SignableMessage))) (.slice (List (Shared TransactionRecord))))
    (.triple (.slice ProviderConfig) (.slice Preferences) (.slice FeatureFlags))

/-- A resolver of confirmations and what it remembers. -/
structure ConfirmationResolver where
  config : ResolverConfig
  latest : Selector latestInputs (Option PendingApproval)
  target : Selector targetInputs (Option PendingApproval)
  resolution : Selector traceInputs (ResolutionTrace Shared)

namespace ConfirmationResolver

/-- A resolver that remembers nothing yet. -/
def new (config : ResolverConfig) : ConfirmationResolver where
  config
  latest := .new "latest_pending_approval"
  target := .new "confirmation_target"
  resolution := .new "current_confirmation"

/-- Resolves a target against what a trace depends on. -/
def computeTrace (config : ResolverConfig) (inputs : traceInputs.Value) :
    ResolutionTrace Shared :=
  let (target, (personal, typed, transactions), (provider, preferences, flags)) := inputs
  resolveTarget target.value
    { personalMessages := personal.value, typedMessages := typed.value,
      transactions := transactions.value, providerConfig := provider.value,
      preferences := preferences.value, featureFlags := flags.value } config

/-- The trace of what a route means in a snapshot. -/
def explain (r : ConfirmationResolver) (s : Snapshot Shared) (route : Option String) :
    Allocating (Shared (ResolutionTrace Shared) × ConfirmationResolver) := do
  let (target, targetSelector) ← r.target.select (s.pendingApprovals, route)
    fun (approvals, route) => selectTarget approvals.value route
  let (trace, resolution) ← r.resolution.select
    (target, (s.unapprovedPersonalMsgs, s.unapprovedTypedMessages, s.transactions),
      (s.providerConfig, s.preferences, s.featureFlags))
    (computeTrace r.config)
  return (trace, { r with target := targetSelector, resolution })

/-- What is to be confirmed now. -/
def currentConfirmation (r : ConfirmationResolver) (s : Snapshot Shared) (route : Option String) :
    Allocating (Option (Confirmation Shared) × ConfirmationResolver) := do
  let (trace, r) ← r.explain s route
  return (trace.value.confirmation, r)

/-- The latest request in the queue. -/
def latestApproval (r : ConfirmationResolver) (s : Snapshot Shared) :
    Allocating (Option PendingApproval × ConfirmationResolver) := do
  let (approval, latest) ← r.latest.select s.pendingApprovals
    fun approvals => WalletView.latestApproval approvals.value
  return (approval.value, { r with latest })

/-- A resolver as it is shown: its configuration and two of its selectors. -/
def describe (r : ConfirmationResolver) : String :=
  "ConfirmationResolver \x7b config: " ++ r.config.describe ++ ", target: " ++ r.target.describe
    ++ ", resolution: " ++ r.resolution.describe ++ " \x7d"

end ConfirmationResolver

end WalletView
