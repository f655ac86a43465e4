/-
# Proofs.Service.Bridge — what is remembered of the bridge is right
-/
import WalletView.Proofs.Service.Basic
import WalletView.Service.Bridge
import WalletView.Report.Query

set_option autoImplicit false

namespace WalletView.BridgeEligibilityService

/-- What the service remembers is right for seen snapshots; it is kept under slices alone, so it is
right from any supply on. -/
structure Good (seen : Snapshot Shared → Prop) (b : BridgeEligibilityService) (_ : Supply) :
    Prop where
  eligibility : b.eligibility.Keeps
    (fun inputs => ∃ s, seen s ∧ inputs = (s.providerConfig, s.bridge, s.featureFlags))
    fun (provider, bridge, flags) => evaluateBridge provider.value bridge.value.toChain flags.value

variable {seen : Snapshot Shared → Prop} {b : BridgeEligibilityService} {supply after : Supply}
  {s : Snapshot Shared}

theorem good_new (seen : Snapshot Shared → Prop) (supply : Supply) : new.Good seen supply :=
  ⟨.new _ _ _⟩

theorem Good.mono (good : b.Good seen supply) : b.Good seen after :=
  ⟨good.eligibility⟩

/-- The eligibility given is the snapshot's. -/
theorem explain_gives (agree : AllAgree seen) (good : b.Good seen supply) (isSeen : seen s) :
    (b.explain s).Ends supply
      (Gives (fun eligibility => eligibility.value = s.bridgeEligibility) (Good seen) supply) := by
  have coherent := good.eligibility.coherent ⟨s, isSeen, rfl⟩ <| by
    rintro _ _ ⟨t, seenT, rfl⟩ ⟨u, seenU, rfl⟩
    have slices := agree t u seenT seenU
    exact ⟨slices .providerConfig, slices .bridge, slices .featureFlags⟩
  refine .bind (good.eligibility.select_renews supply ⟨s, isSeen, rfl⟩ coherent)
    fun (answer, eligibility) after call => ?_
  exact ⟨call.value, ⟨call.keeps⟩, call.grows⟩

/-- Whether a bridge is used is said as the snapshot has it. -/
theorem isBridgeTransaction_gives (agree : AllAgree seen) (good : b.Good seen supply)
    (isSeen : seen s) :
    (b.isBridgeTransaction s).Ends supply
      (Gives (fun used => used = s.bridgeEligibility.isEligible) (Good seen) supply) := by
  refine Gives.bind (explain_gives agree good isSeen) fun (answer, b') after gives => ?_
  have isUsed := congrArg BridgeEligibility.isEligible gives.right
  exact ⟨isUsed, gives.good, Nat.le_refl _⟩

end WalletView.BridgeEligibilityService
