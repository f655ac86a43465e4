/-
# Proofs.Service.Repeat — a view that is asked for again

After a call for a view the selectors of the service hold what was given: the view itself, and the
target or the allow-list that it is kept under.  One lemma for each call says so (`_settles`), and
one that the same call, made while this is held, is answered by hits only (`_again`).
-/
import WalletView.Proofs.Memo.Repeat
import WalletView.Proofs.Service.Allocation

set_option autoImplicit false

namespace WalletView

variable (s : Snapshot Shared) (supply : Supply)

/-! ## Confirmations -/

namespace ConfirmationResolver

variable (r : ConfirmationResolver)

theorem latestApproval_settles :
    (r.latestApproval s).Ends supply fun result after =>
      ∃ approval approvals, result = (approval.value, { r with latest := approvals }) ∧
        Selector.Settles s.pendingApprovals supply (approval, approvals) after := by
  refine .bind (Selector.select_settles _ _ _ _) fun (approval, approvals) after call => ?_
  exact ⟨approval, approvals, rfl, call⟩

theorem explain_settles (route : Option String) :
    (r.explain s route).Ends supply fun result after =>
      ∃ target targets traces mid, result.2 = { r with target := targets, resolution := traces } ∧
        Selector.Settles (s.pendingApprovals, route) supply (target, targets) mid ∧
        Selector.Settles (inputsOfTrace target s) mid (result.1, traces) after := by
  refine .bind (Selector.select_settles _ _ _ _) fun (target, targets) mid first => ?_
  refine .bind (Selector.select_settles _ _ _ _) fun (trace, traces) after second => ?_
  exact ⟨target, targets, traces, mid, rfl, first, second⟩

variable {s r}

theorem latestApproval_again {approval : Shared (Option PendingApproval)}
    (latest : r.latest.Holds s.pendingApprovals approval) :
    r.latestApproval s = pure (approval.value, { r with latest := r.latest.hit }) := by
  simp only [latestApproval, latest.select_eq, pure_bind]

theorem explain_again {route : Option String} {target : Shared (Option PendingApproval)}
    {trace : Shared (ResolutionTrace Shared)}
    (targets : r.target.Holds (s.pendingApprovals, route) target)
    (traces : r.resolution.Holds (inputsOfTrace target s) trace) :
    r.explain s route =
      pure (trace, { r with target := r.target.hit, resolution := r.resolution.hit }) := by
  simp only [explain, targets.select_eq, traces.select_eq, pure_bind]

end ConfirmationResolver

/-! ## Exposed accounts -/

namespace AccountOrderingService

variable (a : AccountOrderingService)

theorem permittedAccounts_settles (origin : Origin) :
    (a.permittedAccounts s origin).Ends supply fun result after =>
      ∃ lists, result.2 = { a with permitted := lists } ∧
        Selector.Settles (s.subjects, origin) supply (result.1, lists) after := by
  refine .bind (Selector.selectReusingEqual_settles _ _ _ _) fun (_, lists) after call => ?_
  exact ⟨lists, rfl, call⟩

theorem lastConnectedInfo_settles :
    (a.lastConnectedInfo s).Ends supply fun result after =>
      ∃ infos, result.2 = { a with lastConnected := infos } ∧
        Selector.Settles s.permissionHistory supply (result.1, infos) after := by
  refine .bind (Selector.select_settles _ _ _ _) fun (_, infos) after call => ?_
  exact ⟨infos, rfl, call⟩

theorem permissionsForTab_settles :
    (a.permissionsForTab s).Ends supply fun result after =>
      ∃ entries, result.2 = { a with tabPermissions := entries } ∧
        Selector.Settles (s.subjects, s.activeOrigin?.getD "") supply (result.1, entries) after := by
  refine .bind (Selector.select_settles _ _ _ _) fun (_, entries) after call => ?_
  exact ⟨entries, rfl, call⟩

theorem connectionsOfSelected_settles :
    (a.connectionsOfSelected s).Ends supply fun result after =>
      ∃ sites, result.2 = { a with connectedSubjects := sites } ∧
        Selector.Settles (s.subjects, s.subjectMetadata, s.internalAccounts) supply
          (result.1, sites) after := by
  refine .bind (Selector.select_settles _ _ _ _) fun (_, sites) after call => ?_
  exact ⟨sites, rfl, call⟩

variable {s a} {origin : Origin} {addresses : Shared (List Address)}

theorem permittedAccounts_again (permitted : a.permitted.Holds (s.subjects, origin) addresses) :
    a.permittedAccounts s origin = pure (addresses, { a with permitted := a.permitted.hit }) := by
  simp only [permittedAccounts, permitted.selectReusingEqual_eq, pure_bind]

/-- Once the allow-list is held, an order is kept under it. -/
theorem orderedAccounts_settles (permitted : a.permitted.Holds (s.subjects, origin) addresses) :
    (a.orderedAccounts s origin).Ends supply fun result after =>
      ∃ orders, result.2 = { a with permitted := a.permitted.hit, ordered := orders } ∧
        Selector.Settles (inputsOfOrder addresses s origin) supply (result.1, orders) after := by
  refine .bind_of_eq (permittedAccounts_again permitted) ?_
  refine .bind (Selector.select_settles _ _ _ _) fun (_, orders) after call => ?_
  exact ⟨orders, rfl, call⟩

theorem orderedAccounts_again {accounts : Shared (List AccountRecord)}
    (permitted : a.permitted.Holds (s.subjects, origin) addresses)
    (ordered : a.ordered.Holds (inputsOfOrder addresses s origin) accounts) :
    a.orderedAccounts s origin =
      pure (accounts, { a with permitted := a.permitted.hit, ordered := a.ordered.hit }) := by
  rw [orderedAccounts, permittedAccounts_again permitted, pure_bind]
  simp only [ordered.select_eq, pure_bind]

theorem lastConnectedInfo_again {info : Shared LastConnectedInfo}
    (lastConnected : a.lastConnected.Holds s.permissionHistory info) :
    a.lastConnectedInfo s = pure (info, { a with lastConnected := a.lastConnected.hit }) := by
  simp only [lastConnectedInfo, lastConnected.select_eq, pure_bind]

theorem permissionsForTab_again {entries : Shared (List PermissionEntry)}
    (tabPermissions : a.tabPermissions.Holds (s.subjects, s.activeOrigin?.getD "") entries) :
    a.permissionsForTab s = pure (entries, { a with tabPermissions := a.tabPermissions.hit }) := by
  simp only [permissionsForTab, tabPermissions.select_eq, pure_bind]

theorem connectionsOfSelected_again {sites : Shared (List ConnectedSubject)}
    (connectedSubjects : a.connectedSubjects.Holds
      (s.subjects, s.subjectMetadata, s.internalAccounts) sites) :
    a.connectionsOfSelected s =
      pure (sites, { a with connectedSubjects := a.connectedSubjects.hit }) := by
  simp only [connectionsOfSelected, connectedSubjects.select_eq, pure_bind]

end AccountOrderingService

/-! ## The bridge -/

namespace BridgeEligibilityService

variable (b : BridgeEligibilityService)

theorem explain_settles :
    (b.explain s).Ends supply fun result after =>
      Selector.Settles (s.providerConfig, s.bridge, s.featureFlags) supply
        (result.1, result.2.eligibility) after := by
  refine .bind (Selector.select_settles _ _ _ _) fun (answer, eligibility) after call => ?_
  exact call

variable {s b}

theorem explain_again {answer : Shared BridgeEligibility}
    (eligibility : b.eligibility.Holds (s.providerConfig, s.bridge, s.featureFlags) answer) :
    b.explain s = pure (answer, ⟨b.eligibility.hit⟩) := by
  simp only [explain, eligibility.select_eq, pure_bind]

end BridgeEligibilityService

end WalletView
