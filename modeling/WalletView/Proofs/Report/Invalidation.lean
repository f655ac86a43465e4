/-
# Proofs.Report.Invalidation — when a view is given in a new allocation

Two calls for one view, with no other call for it in between, are answered with one allocation just
if nothing that the view depends on has changed (`Event.Unchanged`).  For most views that means some
slices of the two snapshots, and what was asked beside them.  The allow-list of a site is one memory
for all sites, and it compares lists, not slices: it is given in one allocation for as long as all
lists that are read are equal, whoever reads them.  The order of a site's accounts is kept under
that allocation.

`Reporter.Tracks` is the invariant: what the services remember of the last call for a view, after
the calls that came since.  One call makes it true for its own view and keeps it for the others
(`Made`); the theorem on runs follows by induction on the steps.
-/
import WalletView.Proofs.Report.Run
import WalletView.Proofs.Service.Allocation

set_option autoImplicit false

namespace WalletView

/-- The two snapshots have the given slices in common. -/
def Snapshot.Shares (s t : Snapshot Shared) (slices : List Slice) : Prop :=
  ∀ slice ∈ slices, (s.held slice).sameAs (t.held slice) = true

@[simp] theorem Snapshot.shares_nil (s t : Snapshot Shared) : s.Shares t [] :=
  nofun

@[simp] theorem Snapshot.shares_cons {s t : Snapshot Shared} {slice : Slice} {more : List Slice} :
    s.Shares t (slice :: more) ↔
      (s.held slice).token = (t.held slice).token ∧ s.Shares t more := by
  rw [Shares, List.forall_mem_cons, Shared.sameAs_iff]
  rfl

namespace Reporter

/-- The allow-list that is read for a call. -/
def Event.allowList? (config : OrderingConfig) (e : Event) : Option (List Address) :=
  match e.call with
  | .permittedAccounts origin | .orderedAccounts origin =>
    some (permittedAccounts e.snapshot.subjects.value origin config)
  | _ => none

/-- All allow-lists read for some calls. -/
abbrev allowLists (config : OrderingConfig) (events : List Event) : List (List Address) :=
  events.filterMap (Event.allowList? config)

/-- Nothing has changed that the view of both calls depends on, where other calls were made between
the two. -/
def Event.Unchanged (config : OrderingConfig) (between : List Event) (later earlier : Event) :
    Prop :=
  let s := later.snapshot
  let t := earlier.snapshot
  match later.call, earlier.call with
  | .explain route, .explain route' =>
    s.Shares t [.pendingApprovals] ∧ route = route' ∧
      s.Shares t [.unapprovedPersonalMsgs, .unapprovedTypedMessages, .transactions,
        .providerConfig, .preferences, .featureFlags]
  | .permittedAccounts _, .permittedAccounts origin =>
    ∀ list ∈ allowLists config (later :: between),
      list = permittedAccounts t.subjects.value origin config
  | .orderedAccounts origin', .orderedAccounts origin =>
    (∀ list ∈ allowLists config (later :: between),
        list = permittedAccounts t.subjects.value origin config) ∧
      s.Shares t [.internalAccounts, .keyrings, .permissionHistory] ∧ origin' = origin
  | .lastConnectedInfo, .lastConnectedInfo => s.Shares t [.permissionHistory]
  | .permissionsForTab, .permissionsForTab =>
    s.Shares t [.subjects] ∧ s.activeOrigin?.getD "" = t.activeOrigin?.getD ""
  | .connectionsOfSelected, .connectionsOfSelected =>
    s.Shares t [.subjects, .subjectMetadata, .internalAccounts]
  | .explainBridge, .explainBridge => s.Shares t [.providerConfig, .bridge, .featureFlags]
  | _, _ => False

/-! ## What is remembered of a call -/

/-- What the services remember of a call, after the calls `since`. -/
def Tracks (config : OrderingConfig) (r : Reporter) (since : List Event) (e : Event) : Prop :=
  let s := e.snapshot
  match e.call with
  | .explain route =>
    ∃ target, r.resolver.target.Gave (s.pendingApprovals, route) target.token ∧
      r.resolver.resolution.Gave (ConfirmationResolver.inputsOfTrace target s) e.allocation
  | .permittedAccounts origin =>
    r.ordering.permitted.Since (allowLists config since)
      (permittedAccounts s.subjects.value origin config) e.allocation
  | .orderedAccounts origin =>
    ∃ list, r.ordering.permitted.Since (allowLists config since)
        (permittedAccounts s.subjects.value origin config) list.token ∧
      r.ordering.ordered.Gave (AccountOrderingService.inputsOfOrder list s origin) e.allocation
  | .lastConnectedInfo => r.ordering.lastConnected.Gave s.permissionHistory e.allocation
  | .permissionsForTab =>
    r.ordering.tabPermissions.Gave (s.subjects, s.activeOrigin?.getD "") e.allocation
  | .connectionsOfSelected =>
    r.ordering.connectedSubjects.Gave (s.subjects, s.subjectMetadata, s.internalAccounts)
      e.allocation
  | .explainBridge =>
    r.bridge.eligibility.Gave (s.providerConfig, s.bridge, s.featureFlags) e.allocation

/-- What the services remember is allocated, and allow-lists are those of seen snapshots. -/
structure Sound (seen : Snapshot Shared → Prop) (config : OrderingConfig) (r : Reporter)
    (supply : Supply) : Prop where
  good : r.ordering.Good seen config supply
  latest : r.resolver.latest.Allocated supply
  target : r.resolver.target.Allocated supply
  resolution : r.resolver.resolution.Allocated supply
  permitted : r.ordering.permitted.Allocated supply
  ordered : r.ordering.ordered.Allocated supply
  lastConnected : r.ordering.lastConnected.Allocated supply
  tabPermissions : r.ordering.tabPermissions.Allocated supply
  connectedSubjects : r.ordering.connectedSubjects.Allocated supply
  eligibility : r.bridge.eligibility.Allocated supply

/-- What a call comes to: it is remembered, and so are the last calls for other views; and of the
last call for its own view it can be said whether it was answered with the same allocation. -/
structure Made (seen : Snapshot Shared → Prop) (config : OrderingConfig) (r : Reporter)
    (s : Snapshot Shared) (call : Call) (supply : Supply) (result : Nat × Reporter)
    (after : Supply) : Prop where
  sound : result.2.Sound seen config after
  tracks : result.2.Tracks config [] ⟨s, call, result.1⟩
  kept : ∀ since e, e.call.method ≠ call.method → r.Tracks config since e →
    result.2.Tracks config (⟨s, call, result.1⟩ :: since) e
  same_iff : ∀ since e, e.call.method = call.method → r.Tracks config since e →
    (result.1 = e.allocation ↔ Event.Unchanged config since ⟨s, call, result.1⟩ e)

variable {seen : Snapshot Shared → Prop} {config : OrderingConfig} {r : Reporter}
  {supply after : Supply} {s : Snapshot Shared}

theorem Sound.mono (sound : r.Sound seen config supply) (grows : supply.next ≤ after.next) :
    r.Sound seen config after where
  good := sound.good.mono grows
  latest := sound.latest.mono grows
  target := sound.target.mono grows
  resolution := sound.resolution.mono grows
  permitted := sound.permitted.mono grows
  ordered := sound.ordered.mono grows
  lastConnected := sound.lastConnected.mono grows
  tabPermissions := sound.tabPermissions.mono grows
  connectedSubjects := sound.connectedSubjects.mono grows
  eligibility := sound.eligibility.mono grows

theorem sound_configured (seen : Snapshot Shared → Prop) (resolver : ResolverConfig)
    (config : OrderingConfig) (supply : Supply) :
    (configured resolver config).Sound seen config supply where
  good := AccountOrderingService.good_new seen config supply
  latest := Selector.remembers_new _ _
  target := Selector.remembers_new _ _
  resolution := Selector.remembers_new _ _
  permitted := Selector.remembers_new _ _
  ordered := Selector.remembers_new _ _
  lastConnected := Selector.remembers_new _ _
  tabPermissions := Selector.remembers_new _ _
  connectedSubjects := Selector.remembers_new _ _
  eligibility := Selector.remembers_new _ _

/-! ## One call -/

theorem explain_made (sound : r.Sound seen config supply) (s : Snapshot Shared)
    (route : Option String) :
    ((Call.explain route).make r s).Ends supply (Made seen config r s (.explain route) supply) := by
  refine .bind (ConfirmationResolver.explain_repeats sound.target sound.resolution s route) ?_
  rintro ⟨trace, _⟩ after ⟨target, targets, traces, mid, rfl, first, second⟩
  refine .pure ⟨{ sound.mono (Nat.le_trans first.grows second.grows) with
    target := first.allocated.mono second.grows, resolution := second.allocated },
    ⟨target, first.gave, second.gave⟩, ?_, ?_⟩
  · rintro since ⟨t, other, allocation⟩ differs tracks
    cases other with
    | explain => exact absurd rfl differs
    | _ => exact tracks
  · rintro since ⟨t, other, allocation⟩ same tracks
    cases other with
    | explain route' =>
      obtain ⟨target', given, given'⟩ := tracks
      have sameTarget := first.same_iff _ _ given
      refine (second.same_iff _ _ given').trans ?_
      rw [Dependency.unchanged_iff] at sameTarget ⊢
      simp only [Dependency.identity, Prod.mk.injEq, sameTarget, Dependency.identity_optional_text]
      simp [Event.Unchanged, Snapshot.held, and_assoc]
    | _ => cases same

theorem permittedAccounts_made (agree : AllAgree seen) (sound : r.Sound seen config supply)
    (isSeen : seen s) (origin : Origin) :
    ((Call.permittedAccounts origin).make r s).Ends supply
      (Made seen config r s (.permittedAccounts origin) supply) := by
  have gives := AccountOrderingService.permittedAccounts_gives agree sound.good isSeen origin
  refine .bind (gives.and (AccountOrderingService.permittedAccounts_extends agree sound.good isSeen
    sound.permitted origin)) ?_
  rintro ⟨addresses, _⟩ after ⟨gives, lists, rfl, isList, call⟩
  obtain ⟨inputs, entry⟩ := call.now
  replace isList : addresses.value = permittedAccounts s.subjects.value origin config := isList
  refine .pure ⟨{ sound.mono call.grows with
    good := gives.good, permitted := call.allocated }, ?_, ?_, ?_⟩
  · have given := Selector.since_of_entry entry
    rw [isList] at given
    exact given
  · rintro since ⟨t, other, allocation⟩ differs tracks
    cases other with
    | permittedAccounts => exact absurd rfl differs
    | orderedAccounts origin' =>
      obtain ⟨list, given, order⟩ := tracks
      replace given := call.since _ _ _ given
      rw [isList] at given
      exact ⟨list, given, order⟩
    | _ => exact tracks
  · rintro since ⟨t, other, allocation⟩ same tracks
    cases other with
    | permittedAccounts origin' =>
      obtain ⟨_, now, entry', -, same_iff, -⟩ := call.since _ _ _ tracks
      obtain ⟨rfl, rfl⟩ := Prod.mk.inj (Option.some.inj (entry.symm.trans entry'))
      rw [isList] at same_iff
      exact same_iff
    | _ => cases same

theorem orderedAccounts_made (agree : AllAgree seen) (sound : r.Sound seen config supply)
    (isSeen : seen s) (origin : Origin) :
    ((Call.orderedAccounts origin).make r s).Ends supply
      (Made seen config r s (.orderedAccounts origin) supply) := by
  have gives := AccountOrderingService.orderedAccounts_gives agree sound.good isSeen origin
  refine .bind (gives.and (AccountOrderingService.orderedAccounts_repeats agree sound.good isSeen
    sound.permitted sound.ordered origin)) ?_
  rintro ⟨accounts, _⟩ after ⟨gives, list, lists, orders, mid, rfl, isList, first, second⟩
  obtain ⟨inputs, entry⟩ := first.now
  refine .pure ⟨{ sound.mono (Nat.le_trans first.grows second.grows) with
    good := gives.good, permitted := first.allocated.mono second.grows,
    ordered := second.allocated }, ?_, ?_, ?_⟩
  · have given := Selector.since_of_entry entry
    rw [isList] at given
    exact ⟨list, given, second.gave⟩
  · rintro since ⟨t, other, allocation⟩ differs tracks
    cases other with
    | orderedAccounts => exact absurd rfl differs
    | permittedAccounts origin' =>
      have given := first.since _ _ _ tracks
      rw [isList] at given
      exact given
    | _ => exact tracks
  · rintro since ⟨t, other, allocation⟩ same tracks
    cases other with
    | orderedAccounts origin' =>
      obtain ⟨list', given, order⟩ := tracks
      obtain ⟨_, now, entry', -, sameList, -⟩ := first.since _ _ _ given
      obtain ⟨rfl, rfl⟩ := Prod.mk.inj (Option.some.inj (entry.symm.trans entry'))
      rw [isList] at sameList
      refine (second.same_iff _ _ order).trans ?_
      rw [Dependency.unchanged_iff]
      simp only [Dependency.identity, Prod.mk.injEq, sameList, Event.Unchanged,
        Snapshot.shares_cons, Snapshot.shares_nil, Snapshot.held, and_true, and_assoc]
      rfl
    | _ => cases same

theorem lastConnectedInfo_made (agree : AllAgree seen) (sound : r.Sound seen config supply)
    (isSeen : seen s) :
    (Call.lastConnectedInfo.make r s).Ends supply
      (Made seen config r s .lastConnectedInfo supply) := by
  have gives := AccountOrderingService.lastConnectedInfo_gives agree sound.good isSeen
  refine .bind (gives.and
    (AccountOrderingService.lastConnectedInfo_repeats sound.lastConnected s)) ?_
  rintro ⟨info, _⟩ after ⟨gives, infos, rfl, call⟩
  refine .pure ⟨{ sound.mono call.grows with
    good := gives.good, lastConnected := call.allocated }, call.gave, ?_, ?_⟩
  · rintro since ⟨t, other, allocation⟩ differs tracks
    cases other with
    | lastConnectedInfo => exact absurd rfl differs
    | _ => exact tracks
  · rintro since ⟨t, other, allocation⟩ same tracks
    cases other with
    | lastConnectedInfo =>
      refine (call.same_iff _ _ tracks).trans ?_
      simp [Event.Unchanged, Dependency.unchanged, Snapshot.held, Shared.sameAs_iff]
    | _ => cases same

theorem permissionsForTab_made (agree : AllAgree seen) (sound : r.Sound seen config supply)
    (isSeen : seen s) :
    (Call.permissionsForTab.make r s).Ends supply
      (Made seen config r s .permissionsForTab supply) := by
  have gives := AccountOrderingService.permissionsForTab_gives agree sound.good isSeen
  refine .bind (gives.and
    (AccountOrderingService.permissionsForTab_repeats sound.tabPermissions s)) ?_
  rintro ⟨entries, _⟩ after ⟨gives, memory, rfl, call⟩
  refine .pure ⟨{ sound.mono call.grows with
    good := gives.good, tabPermissions := call.allocated }, call.gave, ?_, ?_⟩
  · rintro since ⟨t, other, allocation⟩ differs tracks
    cases other with
    | permissionsForTab => exact absurd rfl differs
    | _ => exact tracks
  · rintro since ⟨t, other, allocation⟩ same tracks
    cases other with
    | permissionsForTab =>
      refine (call.same_iff _ _ tracks).trans ?_
      simp [Event.Unchanged, Dependency.unchanged, Snapshot.held, Shared.sameAs_iff]
    | _ => cases same

theorem connectionsOfSelected_made (agree : AllAgree seen) (sound : r.Sound seen config supply)
    (isSeen : seen s) :
    (Call.connectionsOfSelected.make r s).Ends supply
      (Made seen config r s .connectionsOfSelected supply) := by
  have gives := AccountOrderingService.connectionsOfSelected_gives agree sound.good isSeen
  refine .bind (gives.and
    (AccountOrderingService.connectionsOfSelected_repeats sound.connectedSubjects s)) ?_
  rintro ⟨sites, _⟩ after ⟨gives, memory, rfl, call⟩
  refine .pure ⟨{ sound.mono call.grows with
    good := gives.good, connectedSubjects := call.allocated }, call.gave, ?_, ?_⟩
  · rintro since ⟨t, other, allocation⟩ differs tracks
    cases other with
    | connectionsOfSelected => exact absurd rfl differs
    | _ => exact tracks
  · rintro since ⟨t, other, allocation⟩ same tracks
    cases other with
    | connectionsOfSelected =>
      refine (call.same_iff _ _ tracks).trans ?_
      simp [Event.Unchanged, Dependency.unchanged, Snapshot.held, Shared.sameAs_iff, and_assoc]
    | _ => cases same

theorem explainBridge_made (sound : r.Sound seen config supply) (s : Snapshot Shared) :
    (Call.explainBridge.make r s).Ends supply (Made seen config r s .explainBridge supply) := by
  refine .bind (BridgeEligibilityService.explain_repeats sound.eligibility s) ?_
  intro (eligibility, memory) after call
  refine .pure ⟨{ sound.mono call.grows with eligibility := call.allocated }, call.gave, ?_, ?_⟩
  · rintro since ⟨t, other, allocation⟩ differs tracks
    cases other with
    | explainBridge => exact absurd rfl differs
    | _ => exact tracks
  · rintro since ⟨t, other, allocation⟩ same tracks
    cases other with
    | explainBridge =>
      refine (call.same_iff _ _ tracks).trans ?_
      simp [Event.Unchanged, Dependency.unchanged, Snapshot.held, Shared.sameAs_iff, and_assoc]
    | _ => cases same

/-- **What a call of the services comes to.** -/
theorem make_made (agree : AllAgree seen) (sound : r.Sound seen config supply) (isSeen : seen s)
    (call : Call) : (call.make r s).Ends supply (Made seen config r s call supply) := by
  cases call with
  | explain route => exact explain_made sound s route
  | permittedAccounts origin => exact permittedAccounts_made agree sound isSeen origin
  | orderedAccounts origin => exact orderedAccounts_made agree sound isSeen origin
  | lastConnectedInfo => exact lastConnectedInfo_made agree sound isSeen
  | permissionsForTab => exact permissionsForTab_made agree sound isSeen
  | connectionsOfSelected => exact connectionsOfSelected_made agree sound isSeen
  | explainBridge => exact explainBridge_made sound s

/-! ## A run -/

/-- What holds after every step: the last call for each view is remembered, and every call was
answered with the allocation of the one before it, or not, as it must be. -/
structure Ran.Invariant (seen : Snapshot Shared → Prop) (config : OrderingConfig) (ran : Ran) :
    Prop where
  sound : ran.reporter.Sound seen config ran.supply
  tracks : ∀ since e before, ran.history = since ++ e :: before →
    (∀ other ∈ since, other.call.method ≠ e.call.method) → ran.reporter.Tracks config since e
  right : ∀ after later between earlier before,
    ran.history = after ++ later :: (between ++ earlier :: before) →
    earlier.call.method = later.call.method →
    (∀ other ∈ between, other.call.method ≠ later.call.method) →
    (later.allocation = earlier.allocation ↔ later.Unchanged config between earlier)

namespace Ran.Invariant

variable {ran : Ran}

theorem start (seen : Snapshot Shared → Prop) (resolver : ResolverConfig)
    (config : OrderingConfig) (supply : Supply) :
    (⟨[], configured resolver config, supply⟩ : Ran).Invariant seen config where
  sound := sound_configured seen resolver config supply
  tracks since e before history := by simp at history
  right after later between earlier before history := by simp at history

/-- A call keeps the invariant. -/
theorem call (agree : AllAgree seen) (invariant : ran.Invariant seen config) (isSeen : seen s)
    (call : Call) : (ran.next (.call s call)).Invariant seen config := by
  have made := make_made agree invariant.sound isSeen call
  refine ⟨made.sound, ?_, ?_⟩
  · intro since e before history others
    rcases List.cons_eq_append_iff.1 history with ⟨rfl, isNew⟩ | ⟨since, rfl, older⟩
    · cases isNew
      exact made.tracks
    · obtain ⟨differs, others⟩ := List.forall_mem_cons.1 others
      exact made.kept since e (Ne.symm differs) (invariant.tracks since e before older others)
  · intro after later between earlier before history same others
    rcases List.cons_eq_append_iff.1 history with ⟨-, isNew⟩ | ⟨after, -, older⟩
    · obtain ⟨rfl, older⟩ := List.cons.inj isNew
      have tracked := invariant.tracks between earlier before older.symm (same ▸ others)
      exact made.same_iff between earlier same tracked
    · exact invariant.right after later between earlier before older same others

/-- Asking for the latest request, which is given as a value, changes nothing of this. -/
theorem latestApproval (invariant : ran.Invariant seen config) (s : Snapshot Shared) :
    (ran.next (.latestApproval s)).Invariant seen config := by
  obtain ⟨approval, approvals, left, call⟩ :=
    ConfirmationResolver.latestApproval_repeats invariant.sound.latest s
  simp only [next, left]
  exact ⟨{ invariant.sound.mono call.grows with latest := call.allocated }, invariant.tracks,
    invariant.right⟩

theorem allocate (invariant : ran.Invariant seen config) (count : Nat) :
    (ran.next (.allocate count)).Invariant seen config :=
  ⟨invariant.sound.mono (Nat.le_add_right _ _), invariant.tracks, invariant.right⟩

/-- One step after another keeps the invariant. -/
theorem foldl (agree : AllAgree seen) (steps : List Step)
    (areSeen : ∀ step ∈ steps, ∀ s ∈ step.snapshot?, seen s)
    (invariant : ran.Invariant seen config) : (steps.foldl Ran.next ran).Invariant seen config := by
  induction steps generalizing ran with
  | nil => exact invariant
  | cons step more ih =>
    obtain ⟨isSeen, areSeen⟩ := List.forall_mem_cons.1 areSeen
    refine ih areSeen ?_
    cases step with
    | call s call => exact invariant.call agree (isSeen s rfl) call
    | latestApproval s => exact invariant.latestApproval s
    | allocate count => exact invariant.allocate count

end Ran.Invariant

/-- **When a view is given in a new allocation.**  In a run of the services, a call is answered with
the allocation of the last call for the same view just if nothing that the view depends on has
changed since.  All that is supposed of the snapshots is that no allocation has two contents. -/
theorem run_allocation_eq_iff (resolver : ResolverConfig) (ordering : OrderingConfig)
    (start : Supply) (steps : List Step)
    (agree : ∀ s ∈ steps.filterMap Step.snapshot?, ∀ t ∈ steps.filterMap Step.snapshot?,
      s.Agrees t) :
    let ran := run resolver ordering start steps
    ran.history.map (fun e => (e.snapshot, e.call)) = (steps.filterMap Step.call?).reverse ∧
      ∀ after later between earlier before,
        ran.history = after ++ later :: (between ++ earlier :: before) →
        earlier.call.method = later.call.method →
        (∀ other ∈ between, other.call.method ≠ later.call.method) →
        (later.allocation = earlier.allocation ↔ later.Unchanged ordering between earlier) := by
  intro ran
  have invariant : ran.Invariant (· ∈ steps.filterMap Step.snapshot?) ordering := by
    refine (Ran.Invariant.start _ resolver ordering start).foldl
      (fun s t isSeen isSeen' => agree s isSeen t isSeen') steps fun step member s isAbout => ?_
    exact List.mem_filterMap.2 ⟨step, member, isAbout⟩
  refine ⟨?_, invariant.right⟩
  exact (map_foldl_next steps _).trans (List.append_nil _)

/-- The order of a site's accounts is given in the same allocation though the subjects are in a new
one, where another site has come and the allow-list was read in between. -/
theorem run_allocation_eq_iff_other_subjects :
    let site (address : Address) : Subject := ⟨none, .ofList [("eth_accounts",
      ⟨[⟨"restrictReturnedAccounts", .array [.string address]⟩], 0, "", "", ""⟩)]⟩
    let account : AccountRecord := ⟨"1", "0xA", .empty, .empty, [], ""⟩
    let s : Snapshot Shared := (Snapshot.share
      { Snapshot.empty with
        subjects := .ofList [("a", site "0xa")]
        internalAccounts := ⟨.ofList [("1", account)], "1"⟩ } ⟨0⟩).1
    let t := { s with subjects := ⟨99, .ofList [("b", site "0xb"), ("a", site "0xa")]⟩ }
    let steps : List Step := [.call s (.orderedAccounts "a"), .allocate 3,
      .call t (.permittedAccounts "a"), .call t (.orderedAccounts "a")]
    permittedAccounts t.subjects.value "a" .standard = ["0xa"] ∧
      (t.orderedAccounts "a" .standard).map AccountRecord.id = ["1"] ∧
      ∃ later between earlier,
        (run .standard .standard ⟨100⟩ steps).history = [later, between, earlier] ∧
          later.snapshot = t ∧ earlier.snapshot = s ∧ later.allocation = earlier.allocation := by
  intro site account s t steps
  have agree : s.Agrees t := by
    intro slice same
    cases slice with
    | subjects => exact absurd same (by decide)
    | _ => rfl
  let later : Event := ⟨t, .orderedAccounts "a", 101⟩
  let between : Event := ⟨t, .permittedAccounts "a", 100⟩
  let earlier : Event := ⟨s, .orderedAccounts "a", 101⟩
  have history : (run .standard .standard ⟨100⟩ steps).history = [later, between, earlier] := rfl
  have isOrder : (t.orderedAccounts "a" .standard).map AccountRecord.id = ["1"] := by
    decide +kernel
  refine ⟨rfl, isOrder, later, between, earlier, history, rfl, rfl, ?_⟩
  refine ((run_allocation_eq_iff .standard .standard ⟨100⟩ steps ?_).2 [] later [between] earlier []
    history rfl ?_).2 ?_
  · simp only [steps, List.filterMap_cons, List.filterMap_nil, Step.snapshot?, List.forall_mem_cons,
      List.not_mem_nil, false_imp_iff, implies_true, and_true]
    exact ⟨⟨.refl _, agree, agree⟩, ⟨agree.symm, .refl _, .refl _⟩, agree.symm, .refl _, .refl _⟩
  · exact List.forall_mem_singleton.2 (by decide)
  · refine ⟨List.forall_mem_cons.2 ⟨rfl, List.forall_mem_singleton.2 rfl⟩, ?_, rfl⟩
    simp only [Snapshot.shares_cons, Snapshot.shares_nil, and_true]
    exact ⟨rfl, rfl, rfl⟩

end Reporter

end WalletView
