/-
# Proofs.Report.Repeat — a report that is made again

After a report the selectors of a reporter hold all that the report is made of
(`Reporter.HoldsReport`).  The same report, made again, is then answered by hits only: every view is
in the allocation that it was in, and nothing is computed.

One case goes past the selectors.  Without an origin, neither one that is asked for nor the active
tab's, a report allocates two empty lists, and does so each time.
-/
import WalletView.Proofs.Service.Repeat

set_option autoImplicit false

namespace WalletView.Reporter

/-- How often each selector could not answer from its entry. -/
def recomputations (r : Reporter) : List UInt64 :=
  [r.resolver.latest.recomputations, r.resolver.target.recomputations,
    r.resolver.resolution.recomputations, r.ordering.permitted.recomputations,
    r.ordering.ordered.recomputations, r.ordering.lastConnected.recomputations,
    r.ordering.tabPermissions.recomputations, r.ordering.connectedSubjects.recomputations,
    r.bridge.eligibility.recomputations]

/-- The lists of accounts are held for the origin that they were made for, if there is one. -/
structure HoldsAccounts (a : AccountOrderingService) (s : Snapshot Shared)
    (origin : Option Origin) (lists : Shared (List Address) × Shared (List AccountRecord)) :
    Prop where
  permitted : ∀ site ∈ origin, a.permitted.Holds (s.subjects, site) lists.1
  ordered : ∀ site ∈ origin,
    a.ordered.Holds (AccountOrderingService.inputsOfOrder lists.1 s site) lists.2

/-- A report for a route and an origin, of which the selectors hold all that is not read from the
snapshot directly. -/
structure HoldsReport (r : Reporter) (s : Snapshot Shared) (route : Option String)
    (asked : Option Origin) (report : Report Shared) : Prop where
  routeId : report.routeId = route
  origin : report.origin = asked
  sourceChain : report.sourceChain = s.sourceChain.chainId
  destinationChain : report.destinationChain = s.destinationChain?.map ProviderConfig.chainId
  latest : ∃ approval, r.resolver.latest.Holds s.pendingApprovals approval ∧
    approval.value = report.latestApproval
  trace : ∃ target, r.resolver.target.Holds (s.pendingApprovals, route) target ∧
    r.resolver.resolution.Holds (ConfirmationResolver.inputsOfTrace target s)
      report.currentConfirmation
  accounts : HoldsAccounts r.ordering s asked (report.permittedAccounts, report.orderedAccounts)
  lastConnected : r.ordering.lastConnected.Holds s.permissionHistory report.lastConnectedInfo
  tabPermissions : r.ordering.tabPermissions.Holds (s.subjects, s.activeOrigin?.getD "")
    report.tabPermissions
  connectedSubjects : r.ordering.connectedSubjects.Holds
    (s.subjects, s.subjectMetadata, s.internalAccounts) report.connectedSubjects
  bridge : r.bridge.eligibility.Holds (s.providerConfig, s.bridge, s.featureFlags) report.bridge

variable {s : Snapshot Shared} {supply : Supply}

/-! ## The first report -/

/-- The two lists are held afterwards, or else they are allocated by then. -/
theorem accountsFor_settles (a : AccountOrderingService) (s : Snapshot Shared)
    (origin : Option Origin) (supply : Supply) :
    (accountsFor a s origin).Ends supply fun result after =>
      ∃ lists orders, result.2 = { a with permitted := lists, ordered := orders } ∧
        HoldsAccounts result.2 s origin result.1 ∧
        (origin = none → result.1.1.token < after.next ∧ result.1.2.token < after.next) := by
  cases origin with
  | none =>
    refine .bind (Allocating.allocate_ends [] supply) fun permitted mid first => ?_
    refine .bind (Allocating.allocate_ends [] mid) fun ordered after second => ?_
    obtain ⟨rfl, grows⟩ := first
    obtain ⟨rfl, grows'⟩ := second
    refine .pure ⟨a.permitted, a.ordered, rfl, ⟨nofun, nofun⟩, fun _ => ⟨?_, ?_⟩⟩
    · show supply.next < after.next
      omega
    · show mid.next < after.next
      omega
  | some origin =>
    refine .bind (AccountOrderingService.permittedAccounts_settles s supply a origin) ?_
    rintro ⟨addresses, _⟩ mid ⟨lists, rfl, first⟩
    -- The order asks for the allow-list once more, and is kept under the one that is held by now.
    refine .bind (AccountOrderingService.orderedAccounts_settles mid first.holds) ?_
    rintro ⟨accounts, _⟩ after ⟨orders, rfl, second⟩
    refine .pure ⟨lists.hit, orders, rfl, ⟨?_, ?_⟩, nofun⟩
    · rintro _ ⟨⟩
      exact first.holds.hit
    · rintro _ ⟨⟩
      exact second.holds

/-- **After a report, what it is made of is held.** -/
theorem report_settles (r : Reporter) (s : Snapshot Shared) (route : Option String)
    (origin : Option Origin) (supply : Supply) :
    (r.report s route origin).Ends supply fun result after =>
      result.2.HoldsReport s route (origin <|> s.activeOrigin?) result.1 ∧
        ((origin <|> s.activeOrigin?) = none →
          result.1.permittedAccounts.token < after.next ∧
            result.1.orderedAccounts.token < after.next) := by
  refine .bind (accountsFor_settles r.ordering s (origin <|> s.activeOrigin?) supply) ?_
  rintro ⟨⟨permitted, ordered⟩, _⟩ s₁ ⟨lists, orders, rfl, accounts, allocated⟩
  refine .bind (ConfirmationResolver.latestApproval_settles s s₁ r.resolver) ?_
  rintro ⟨_, _⟩ s₂ ⟨approval, approvals, same, latest⟩
  cases same
  refine .bind (ConfirmationResolver.explain_settles s s₂ _ route) ?_
  rintro ⟨trace, _⟩ s₃ ⟨target, targets, traces, mid, rfl, first, second⟩
  refine .bind (AccountOrderingService.lastConnectedInfo_settles s s₃ _) ?_
  rintro ⟨info, _⟩ s₄ ⟨infos, rfl, history⟩
  refine .bind (AccountOrderingService.permissionsForTab_settles s s₄ _) ?_
  rintro ⟨entries, _⟩ s₅ ⟨permissions, rfl, tab⟩
  refine .bind (AccountOrderingService.connectionsOfSelected_settles s s₅ _) ?_
  rintro ⟨sites, _⟩ s₆ ⟨connections, rfl, connected⟩
  refine .bind (BridgeEligibilityService.explain_settles s s₆ r.bridge) ?_
  rintro ⟨eligibility, bridge⟩ s₇ eligible
  refine .pure ⟨⟨rfl, rfl, rfl, rfl, ⟨approval, latest.holds, rfl⟩,
    ⟨target, first.holds, second.holds⟩, ⟨accounts.permitted, accounts.ordered⟩, history.holds,
    tab.holds, connected.holds, eligible.holds⟩, fun noOrigin => ?_⟩
  have grown : s₁.next ≤ s₇.next := calc
    s₁.next ≤ s₂.next := latest.grows
    _ ≤ s₃.next := Nat.le_trans first.grows second.grows
    _ ≤ s₄.next := history.grows
    _ ≤ s₅.next := tab.grows
    _ ≤ s₆.next := connected.grows
    _ ≤ s₇.next := eligible.grows
  obtain ⟨below, below'⟩ := allocated noOrigin
  exact ⟨Nat.lt_of_lt_of_le below grown, Nat.lt_of_lt_of_le below' grown⟩

/-! ## The report again -/

/-- Lists that are held are given again. -/
theorem HoldsAccounts.accountsFor_again {a : AccountOrderingService} {origin : Origin}
    {lists : Shared (List Address) × Shared (List AccountRecord)}
    (holds : HoldsAccounts a s (some origin) lists) (supply : Supply) :
    (accountsFor a s (some origin)).Ends supply fun result after =>
      result = (lists, { a with permitted := a.permitted.hit.hit, ordered := a.ordered.hit }) ∧
        after = supply := by
  have permitted := holds.permitted origin rfl
  have ordered := holds.ordered origin rfl
  refine .bind_of_eq (AccountOrderingService.permittedAccounts_again permitted) ?_
  refine .bind_of_eq (AccountOrderingService.orderedAccounts_again permitted.hit ordered) ?_
  exact .pure ⟨rfl, rfl⟩

/-- With what is held for the rest, the report is the one before but for the two lists, and nothing
else is computed or allocated. -/
theorem HoldsReport.report_again {r : Reporter} {route : Option String}
    {origin asked : Option Origin} {report : Report Shared}
    (holds : r.HoldsReport s route asked report) (isAsked : (origin <|> s.activeOrigin?) = asked)
    {lists : Shared (List Address) × Shared (List AccountRecord)}
    {permitted : Selector subjectInputs (List Address)}
    {ordered : Selector orderInputs (List AccountRecord)} {after : Supply}
    (accounts : (accountsFor r.ordering s asked).Ends supply fun result left =>
      result = (lists, { r.ordering with permitted, ordered }) ∧ left = after) :
    (r.report s route origin).Ends supply fun result left =>
      result.1 = { report with permittedAccounts := lists.1, orderedAccounts := lists.2 } ∧
        result.2.recomputations =
          recomputations { r with ordering := { r.ordering with permitted, ordered } } ∧
        left = after := by
  obtain ⟨routeId, isOrigin, source, destination, ⟨approval, latest, isLatest⟩,
    ⟨target, targets, traces⟩, -, history, tab, connected, eligible⟩ := holds
  subst isAsked
  refine .bind accounts ?_
  rintro _ _ ⟨rfl, rfl⟩
  refine .bind_of_eq (ConfirmationResolver.latestApproval_again latest) ?_
  refine .bind_of_eq (ConfirmationResolver.explain_again targets traces) ?_
  refine .bind_of_eq (AccountOrderingService.lastConnectedInfo_again history) ?_
  refine .bind_of_eq (AccountOrderingService.permissionsForTab_again tab) ?_
  refine .bind_of_eq (AccountOrderingService.connectionsOfSelected_again connected) ?_
  refine .bind_of_eq (BridgeEligibilityService.explain_again eligible) ?_
  refine .pure ⟨?_, rfl, rfl⟩
  rw [isLatest, ← source, ← destination, ← isOrigin, ← routeId]

/-- **A report that is made again gives what it gave before, and computes nothing.**  While accounts
are listed for an origin, nothing is allocated either, and all of the report is in the allocations
of the first.  Without an origin its two lists of accounts are in new allocations, and all the rest
is in those of the first.  This is so whatever the reporter remembered before. -/
theorem report_report (r : Reporter) (s : Snapshot Shared) (route : Option String)
    (origin : Option Origin) (supply : Supply) :
    let first := r.report s route origin supply
    let second := first.1.2.report s route origin first.2
    let asked := origin <|> s.activeOrigin?
    second.1.2.recomputations = first.1.2.recomputations ∧
      (asked.isSome = true → second.1.1 = first.1.1 ∧ second.2 = first.2) ∧
      (asked = none →
        second.1.1 = { first.1.1 with
          permittedAccounts := ⟨first.2.next, []⟩, orderedAccounts := ⟨first.2.next + 1, []⟩ } ∧
        first.1.1.permittedAccounts.token < first.2.next ∧
        first.1.1.orderedAccounts.token < first.2.next) := by
  intro first second asked
  obtain ⟨holds, allocated⟩ :
      first.1.2.HoldsReport s route asked first.1.1 ∧
        (asked = none → first.1.1.permittedAccounts.token < first.2.next ∧
          first.1.1.orderedAccounts.token < first.2.next) :=
    report_settles r s route origin supply
  have isAsked : (origin <|> s.activeOrigin?) = asked := rfl
  clear_value asked
  cases asked with
  | some site =>
    have accounts := holds.accounts.accountsFor_again first.2
    obtain ⟨same, counts, left⟩ := holds.report_again isAsked accounts
    exact ⟨counts, fun _ => ⟨same, left⟩, nofun⟩
  | none =>
    obtain ⟨same, counts, -⟩ := holds.report_again isAsked ⟨rfl, rfl⟩
    exact ⟨counts, nofun, fun _ => ⟨same, allocated rfl⟩⟩

/-- **Without an origin a report that is made again has other allocations**, though nothing has
changed: its two lists are as empty as before, and new. -/
theorem report_report_without_origin :
    let s : Snapshot Shared := (Snapshot.empty.share ⟨0⟩).1
    let first := new.report s none none ⟨20⟩
    let second := first.1.2.report s none none first.2
    s.activeOrigin? = none ∧
      second.1.1.permittedAccounts.sameAs first.1.1.permittedAccounts = false ∧
      second.1.1.orderedAccounts.sameAs first.1.1.orderedAccounts = false ∧
      second.1.1.permittedAccounts.value = first.1.1.permittedAccounts.value ∧
      second.1.1.orderedAccounts.value = first.1.1.orderedAccounts.value := by
  intro s first second
  exact ⟨rfl, rfl, rfl, rfl, rfl⟩

end WalletView.Reporter
