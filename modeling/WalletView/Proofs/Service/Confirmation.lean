/-
# Proofs.Service.Confirmation — what is remembered of confirmations is right

The invariant of a resolver (`ConfirmationResolver.Good`): each of its selectors keeps what its
derivation gives for slices of seen snapshots, and the traces are kept under answers of the
selector of targets.  Every method gives what is derived from the snapshot it is called with, and
keeps the invariant.
-/
import WalletView.Proofs.Service.Basic
import WalletView.Service.Confirmation

set_option autoImplicit false

namespace WalletView.ConfirmationResolver

/-- What the resolver remembers is right for seen snapshots. -/
structure Good (seen : Snapshot Shared → Prop) (config : ResolverConfig)
    (r : ConfirmationResolver) (supply : Supply) : Prop where
  configured : r.config = config
  latest : r.latest.Keeps (fun inputs => ∃ s, seen s ∧ inputs = s.pendingApprovals)
    fun approvals => WalletView.latestApproval approvals.value
  target : r.target.Keeps (fun inputs => ∃ s route, seen s ∧ inputs = (s.pendingApprovals, route))
    fun (approvals, route) => selectTarget approvals.value route
  resolution : r.resolution.Keeps
    (fun inputs => ∃ s target, seen s ∧ inputs =
      (target, (s.unapprovedPersonalMsgs, s.unapprovedTypedMessages, s.transactions),
        (s.providerConfig, s.preferences, s.featureFlags)))
    (computeTrace config)
  chained : r.target.Chained (r.resolution.entry.map fun entry => entry.1.1) supply

variable {seen : Snapshot Shared → Prop} {config : ResolverConfig} {r : ConfirmationResolver}
  {supply after : Supply} {s : Snapshot Shared}

theorem good_new (seen : Snapshot Shared → Prop) (config : ResolverConfig) (supply : Supply) :
    (new config).Good seen config supply where
  configured := rfl
  latest := .new _ _ _
  target := .new _ _ _
  resolution := .new _ _ _
  chained := .new _ _

theorem Good.mono (good : r.Good seen config supply) (grows : supply.next ≤ after.next) :
    r.Good seen config after :=
  { good with chained := good.chained.mono grows }

/-- **The trace given is the one that the snapshot resolves to.** -/
theorem explain_gives (agree : AllAgree seen) (good : r.Good seen config supply) (isSeen : seen s)
    (route : Option String) :
    (r.explain s route).Ends supply
      (Gives (fun trace => trace.value = resolve s route config) (Good seen config) supply) := by
  have targetCoherent := good.target.coherent ⟨s, route, isSeen, rfl⟩ <| by
    rintro _ _ ⟨t, route, seenT, rfl⟩ ⟨u, route', seenU, rfl⟩
    exact ⟨agree t u seenT seenU .pendingApprovals, Dependency.coherent_optional_text route route'⟩
  refine .bind (good.target.select_renews supply ⟨s, route, isSeen, rfl⟩ targetCoherent)
    fun (target, targets) mid first => ?_
  -- The target is an input by identity: it is the one the last trace was kept under, or another.
  have traceCoherent : r.resolution.Remembers fun previous _ => traceInputs.Coherent
      (target, (s.unapprovedPersonalMsgs, s.unapprovedTypedMessages, s.transactions),
        (s.providerConfig, s.preferences, s.featureFlags)) previous := by
    intro previous answer entry
    obtain ⟨⟨t, old, seenT, rfl⟩, -⟩ := good.resolution previous answer entry
    have sameTarget := good.chained.answer_coherent first.toAnswers old (by simp [entry])
    have slices := agree s t isSeen seenT
    exact ⟨sameTarget, ⟨slices .unapprovedPersonalMsgs, slices .unapprovedTypedMessages,
      slices .transactions⟩, slices .providerConfig, slices .preferences, slices .featureFlags⟩
  rw [good.configured]
  refine .bind (good.resolution.select_renews mid ⟨s, target, isSeen, rfl⟩ traceCoherent)
    fun (trace, traces) after second => ?_
  have isTrace : trace.value = resolve s route config := by
    rw [second.value]
    show resolveTarget target.value s.resolutionInputs config = _
    rw [first.value]
    rfl
  have chained : targets.Chained (traces.entry.map fun entry => entry.1.1) after := by
    rw [second.entry]
    exact (good.chained.given first.toAnswers).mono second.grows
  exact ⟨isTrace, ⟨rfl, good.latest, first.keeps, second.keeps, chained⟩,
    Nat.le_trans first.grows second.grows⟩

/-- The confirmation given is that of the trace that the snapshot resolves to. -/
theorem currentConfirmation_gives (agree : AllAgree seen) (good : r.Good seen config supply)
    (isSeen : seen s) (route : Option String) :
    (r.currentConfirmation s route).Ends supply
      (Gives (fun confirmation => confirmation = (resolve s route config).confirmation)
        (Good seen config) supply) := by
  refine Gives.bind (explain_gives agree good isSeen route) fun (trace, r') after gives => ?_
  have isConfirmation := congrArg ResolutionTrace.confirmation gives.right
  exact ⟨isConfirmation, gives.good, Nat.le_refl _⟩

/-- The latest request given is the latest of the snapshot. -/
theorem latestApproval_gives (agree : AllAgree seen) (good : r.Good seen config supply)
    (isSeen : seen s) :
    (r.latestApproval s).Ends supply
      (Gives (fun approval => approval = WalletView.latestApproval s.pendingApprovals.value)
        (Good seen config) supply) := by
  have coherent := good.latest.coherent ⟨s, isSeen, rfl⟩ <| by
    rintro _ _ ⟨t, seenT, rfl⟩ ⟨u, seenU, rfl⟩
    exact agree t u seenT seenU .pendingApprovals
  refine .bind (good.latest.select_renews supply ⟨s, isSeen, rfl⟩ coherent)
    fun (approval, latest) after call => ?_
  exact ⟨call.value, { good.mono call.grows with latest := call.keeps }, call.grows⟩

end WalletView.ConfirmationResolver
