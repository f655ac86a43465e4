/-
# Proofs.Service.Allocation — how a call changes what a service remembers

A call of a service changes one of its selectors, or two: first the one that gives the target, or
the allow-list, and then the one that is kept under what the first gave.  Each lemma says which, and
what becomes of the allocations of either.
-/
import WalletView.Proofs.Memo.Allocation
import WalletView.Proofs.Service.Confirmation
import WalletView.Proofs.Service.Exposure
import WalletView.Proofs.Service.Bridge

set_option autoImplicit false

namespace WalletView

variable {supply : Supply}

/-! ## Confirmations -/

namespace ConfirmationResolver

/-- What the resolution of a target in a snapshot depends on. -/
abbrev inputsOfTrace (target : Shared (Option PendingApproval)) (s : Snapshot Shared) :
    traceInputs.Value :=
  (target, (s.unapprovedPersonalMsgs, s.unapprovedTypedMessages, s.transactions),
    (s.providerConfig, s.preferences, s.featureFlags))

theorem latestApproval_repeats {r : ConfirmationResolver} (latest : r.latest.Allocated supply)
    (s : Snapshot Shared) :
    (r.latestApproval s).Ends supply fun result after =>
      ∃ approval approvals, result = (approval.value, { r with latest := approvals }) ∧
        r.latest.Repeats s.pendingApprovals supply (approval, approvals) after :=
  .bind (Selector.select_repeats latest _ _) fun (approval, approvals) _ call =>
    ⟨approval, approvals, rfl, call⟩

theorem explain_repeats {r : ConfirmationResolver} (target : r.target.Allocated supply)
    (resolution : r.resolution.Allocated supply) (s : Snapshot Shared) (route : Option String) :
    (r.explain s route).Ends supply fun result after =>
      ∃ target targets traces mid, result.2 = { r with target := targets, resolution := traces } ∧
        r.target.Repeats (s.pendingApprovals, route) supply (target, targets) mid ∧
        r.resolution.Repeats (inputsOfTrace target s) mid (result.1, traces) after := by
  refine .bind (Selector.select_repeats target _ _) fun (target, targets) mid first => ?_
  refine .bind (Selector.select_repeats (resolution.mono first.grows) _ _)
    fun (trace, traces) after second => ?_
  exact ⟨target, targets, traces, mid, rfl, first, second⟩

end ConfirmationResolver

/-! ## Exposed accounts -/

namespace AccountOrderingService

variable {seen : Snapshot Shared → Prop} {config : OrderingConfig} {a : AccountOrderingService}
  {s : Snapshot Shared}

/-- What the order of an origin's accounts in a snapshot depends on. -/
abbrev inputsOfOrder (permitted : Shared (List Address)) (s : Snapshot Shared) (origin : Origin) :
    orderInputs.Value :=
  (permitted, s.internalAccounts, s.keyrings, s.permissionHistory, origin)

theorem permittedAccounts_extends (agree : AllAgree seen) (good : a.Good seen config supply)
    (isSeen : seen s) (permitted : a.permitted.Allocated supply) (origin : Origin) :
    (a.permittedAccounts s origin).Ends supply fun result after =>
      ∃ lists, result.2 = { a with permitted := lists } ∧
        result.1.value = WalletView.permittedAccounts s.subjects.value origin config ∧
        a.permitted.Extends supply (result.1, lists) after := by
  have gives := permittedAccounts_gives agree good isSeen origin
  have extended : (a.permittedAccounts s origin).Ends supply fun result after =>
      ∃ lists, result.2 = { a with permitted := lists } ∧
        a.permitted.Extends supply (result.1, lists) after :=
    .bind (Selector.selectReusingEqual_extends permitted _ _) fun (_, lists) _ call =>
      ⟨lists, rfl, call⟩
  obtain ⟨lists, left, call⟩ := extended
  exact ⟨lists, left, gives.right, call⟩

theorem orderedAccounts_repeats (agree : AllAgree seen) (good : a.Good seen config supply)
    (isSeen : seen s) (permitted : a.permitted.Allocated supply)
    (ordered : a.ordered.Allocated supply) (origin : Origin) :
    (a.orderedAccounts s origin).Ends supply fun result after =>
      ∃ addresses lists orders mid, result.2 = { a with permitted := lists, ordered := orders } ∧
        addresses.value = WalletView.permittedAccounts s.subjects.value origin config ∧
        a.permitted.Extends supply (addresses, lists) mid ∧
        a.ordered.Repeats (inputsOfOrder addresses s origin) mid (result.1, orders) after := by
  refine .bind (permittedAccounts_extends agree good isSeen permitted origin) ?_
  rintro ⟨addresses, _⟩ mid ⟨lists, rfl, isList, first⟩
  refine .bind (Selector.select_repeats (ordered.mono first.grows) _ _)
    fun (accounts, orders) after second => ?_
  exact ⟨addresses, lists, orders, mid, rfl, isList, first, second⟩

theorem lastConnectedInfo_repeats (lastConnected : a.lastConnected.Allocated supply)
    (s : Snapshot Shared) :
    (a.lastConnectedInfo s).Ends supply fun result after =>
      ∃ infos, result.2 = { a with lastConnected := infos } ∧
        a.lastConnected.Repeats s.permissionHistory supply (result.1, infos) after :=
  .bind (Selector.select_repeats lastConnected _ _) fun (_, infos) _ call => ⟨infos, rfl, call⟩

theorem permissionsForTab_repeats (tabPermissions : a.tabPermissions.Allocated supply)
    (s : Snapshot Shared) :
    (a.permissionsForTab s).Ends supply fun result after =>
      ∃ entries, result.2 = { a with tabPermissions := entries } ∧
        a.tabPermissions.Repeats (s.subjects, s.activeOrigin?.getD "") supply (result.1, entries)
          after :=
  .bind (Selector.select_repeats tabPermissions _ _) fun (_, entries) _ call =>
    ⟨entries, rfl, call⟩

theorem connectionsOfSelected_repeats (connectedSubjects : a.connectedSubjects.Allocated supply)
    (s : Snapshot Shared) :
    (a.connectionsOfSelected s).Ends supply fun result after =>
      ∃ sites, result.2 = { a with connectedSubjects := sites } ∧
        a.connectedSubjects.Repeats (s.subjects, s.subjectMetadata, s.internalAccounts) supply
          (result.1, sites) after :=
  .bind (Selector.select_repeats connectedSubjects _ _) fun (_, sites) _ call => ⟨sites, rfl, call⟩

end AccountOrderingService

/-! ## The bridge -/

theorem BridgeEligibilityService.explain_repeats {b : BridgeEligibilityService}
    (eligibility : b.eligibility.Allocated supply) (s : Snapshot Shared) :
    (b.explain s).Ends supply fun result after =>
      b.eligibility.Repeats (s.providerConfig, s.bridge, s.featureFlags) supply
        (result.1, result.2.eligibility) after :=
  .bind (Selector.select_repeats eligibility _ _) fun _ _ call => call

end WalletView
