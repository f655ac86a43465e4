/-
# Proofs.Report.Query — memory is not to be seen

A reporter that remembers gives what one without a memory would.  `Reporter.Good` is the invariant
of the three services; one query is answered directly and keeps it (`ask_gives`), so a whole
sequence of queries is (`askAll_gives`), whatever snapshots they are about and whatever these
share.
-/
import WalletView.Proofs.Service.Confirmation
import WalletView.Proofs.Service.Exposure
import WalletView.Proofs.Service.Bridge

set_option autoImplicit false

namespace WalletView.Reporter

/-- What the services remember is right for seen snapshots. -/
structure Good (seen : Snapshot Shared → Prop) (resolver : ResolverConfig)
    (ordering : OrderingConfig) (r : Reporter) (supply : Supply) : Prop where
  resolver : r.resolver.Good seen resolver supply
  ordering : r.ordering.Good seen ordering supply
  bridge : r.bridge.Good seen supply

variable {seen : Snapshot Shared → Prop} {resolver : ResolverConfig} {ordering : OrderingConfig}
  {r : Reporter} {supply : Supply} {s : Snapshot Shared}

theorem good_configured (seen : Snapshot Shared → Prop) (resolver : ResolverConfig)
    (ordering : OrderingConfig) (supply : Supply) :
    (configured resolver ordering).Good seen resolver ordering supply where
  resolver := ConfirmationResolver.good_new seen resolver supply
  ordering := AccountOrderingService.good_new seen ordering supply
  bridge := BridgeEligibilityService.good_new seen supply

/-- The two lists of accounts are those of the origin, and empty without one. -/
theorem accountsFor_gives {a : AccountOrderingService} (agree : AllAgree seen)
    (good : a.Good seen ordering supply) (isSeen : seen s) (origin : Option Origin) :
    (accountsFor a s origin).Ends supply
      (Gives (fun lists =>
          lists.1.value = origin.elim [] (permittedAccounts s.subjects.value · ordering) ∧
            lists.2.value = origin.elim [] (s.orderedAccounts · ordering))
        (AccountOrderingService.Good seen ordering) supply) := by
  cases origin with
  | none =>
    refine .bind (Allocating.allocate_ends [] supply) fun permitted mid first => ?_
    refine .bind (Allocating.allocate_ends [] mid) fun ordered after second => ?_
    obtain ⟨rfl, grows⟩ := first
    obtain ⟨rfl, grows'⟩ := second
    have grown : supply.next ≤ after.next := by omega
    exact ⟨⟨rfl, rfl⟩, good.mono grown, grown⟩
  | some origin =>
    refine Gives.bind (AccountOrderingService.permittedAccounts_gives agree good isSeen origin)
      fun (permitted, a) mid first => ?_
    refine Gives.bind (AccountOrderingService.orderedAccounts_gives agree first.good isSeen origin)
      fun (ordered, a) after second => ?_
    exact ⟨⟨first.right, second.right⟩, second.good, Nat.le_refl _⟩

/-- **The report given is the snapshot's.** -/
theorem report_gives (agree : AllAgree seen) (good : r.Good seen resolver ordering supply)
    (isSeen : seen s) (route : Option String) (origin : Option Origin) :
    (r.report s route origin).Ends supply
      (Gives (fun report => report.values = s.report resolver ordering route origin)
        (Good seen resolver ordering) supply) := by
  refine .bind (accountsFor_gives agree good.ordering isSeen _) fun (lists, a) s₁ accounts => ?_
  refine .bind (ConfirmationResolver.latestApproval_gives agree
      (good.resolver.mono accounts.grows) isSeen) fun (_, c) s₂ latest => ?_
  refine .bind (ConfirmationResolver.explain_gives agree latest.good isSeen route)
    fun (_, c) s₃ trace => ?_
  have untilTrace : s₁.next ≤ s₃.next := Nat.le_trans latest.grows trace.grows
  refine .bind (AccountOrderingService.lastConnectedInfo_gives agree
      (accounts.good.mono untilTrace) isSeen) fun (_, a) s₄ info => ?_
  refine .bind (AccountOrderingService.permissionsForTab_gives agree info.good isSeen)
    fun (_, a) s₅ entries => ?_
  refine .bind (AccountOrderingService.connectionsOfSelected_gives agree entries.good isSeen)
    fun (_, a) s₆ sites => ?_
  refine .bind (BridgeEligibilityService.explain_gives agree good.bridge.mono isSeen)
    fun (_, b) s₇ eligibility => ?_
  have afterTrace : s₃.next ≤ s₇.next := Nat.le_trans info.grows <|
    Nat.le_trans entries.grows <| Nat.le_trans sites.grows eligibility.grows
  refine ⟨?_, ?_, Nat.le_trans accounts.grows (Nat.le_trans untilTrace afterTrace)⟩
  · show Report.values _ = s.report resolver ordering route origin
    simp only [Report.values, Snapshot.report, Report.mk.injEq]
    exact ⟨rfl, rfl, latest.right, trace.right, accounts.right.1, accounts.right.2, info.right,
      entries.right, sites.right, rfl, rfl, eligibility.right⟩
  · exact ⟨trace.good.mono afterTrace, sites.good.mono eligibility.grows, eligibility.good⟩

section Calls

variable {α : Type} {right : α → Prop} {wrap : α → Answer Shared} {value : Answer Plain}

/-- An answer of the resolver is one of the reporter, who keeps the resolver it leaves. -/
theorem ofResolver_gives {x : Allocating (α × ConfirmationResolver)}
    (good : r.Good seen resolver ordering supply)
    (call : x.Ends supply (Gives right (ConfirmationResolver.Good seen resolver) supply))
    (isValue : ∀ a, right a → (wrap a).values = value) :
    (do let (a, resolver) ← x
        return (wrap a, { r with resolver }) : Allocating (Answer Shared × Reporter)).Ends supply
      (Gives (fun answer => answer.values = value) (Good seen resolver ordering) supply) := by
  refine .bind call fun (a, c) after gives => ?_
  have kept : ({ r with resolver := c } : Reporter).Good seen resolver ordering after :=
    ⟨gives.good, good.ordering.mono gives.grows, good.bridge.mono⟩
  exact ⟨isValue a gives.right, kept, gives.grows⟩

/-- The same of the service of exposed accounts. -/
theorem ofOrdering_gives {x : Allocating (α × AccountOrderingService)}
    (good : r.Good seen resolver ordering supply)
    (call : x.Ends supply (Gives right (AccountOrderingService.Good seen ordering) supply))
    (isValue : ∀ a, right a → (wrap a).values = value) :
    (do let (a, ordering) ← x
        return (wrap a, { r with ordering }) : Allocating (Answer Shared × Reporter)).Ends supply
      (Gives (fun answer => answer.values = value) (Good seen resolver ordering) supply) := by
  refine .bind call fun (a, o) after gives => ?_
  have kept : ({ r with ordering := o } : Reporter).Good seen resolver ordering after :=
    ⟨good.resolver.mono gives.grows, gives.good, good.bridge.mono⟩
  exact ⟨isValue a gives.right, kept, gives.grows⟩

/-- The same of the view of the bridge. -/
theorem ofBridge_gives {x : Allocating (α × BridgeEligibilityService)}
    (good : r.Good seen resolver ordering supply)
    (call : x.Ends supply (Gives right (BridgeEligibilityService.Good seen) supply))
    (isValue : ∀ a, right a → (wrap a).values = value) :
    (do let (a, bridge) ← x
        return (wrap a, { r with bridge }) : Allocating (Answer Shared × Reporter)).Ends supply
      (Gives (fun answer => answer.values = value) (Good seen resolver ordering) supply) := by
  refine .bind call fun (a, b) after gives => ?_
  have kept : ({ r with bridge := b } : Reporter).Good seen resolver ordering after :=
    ⟨good.resolver.mono gives.grows, good.ordering.mono gives.grows, gives.good⟩
  exact ⟨isValue a gives.right, kept, gives.grows⟩

end Calls

/-- **A query is answered as if nothing were remembered**, and the invariant is kept. -/
theorem ask_gives (agree : AllAgree seen) (good : r.Good seen resolver ordering supply)
    (isSeen : seen s) (query : Query) :
    (r.ask s query).Ends supply
      (Gives (fun answer => answer.values = s.answer resolver ordering query)
        (Good seen resolver ordering) supply) := by
  cases query with
  | report route origin =>
    refine Gives.bind (report_gives agree good isSeen route origin) fun (_, r') after gives => ?_
    exact ⟨congrArg Answer.report gives.right, gives.good, Nat.le_refl _⟩
  | explain route =>
    have call := ConfirmationResolver.explain_gives agree good.resolver isSeen route
    exact ofResolver_gives good call fun _ right => congrArg Answer.trace right
  | currentConfirmation route =>
    have call := ConfirmationResolver.currentConfirmation_gives agree good.resolver isSeen route
    exact ofResolver_gives good call fun _ right => congrArg Answer.confirmation right
  | latestApproval =>
    have call := ConfirmationResolver.latestApproval_gives agree good.resolver isSeen
    exact ofResolver_gives good call fun _ right => congrArg Answer.approval right
  | permittedAccounts origin =>
    have call := AccountOrderingService.permittedAccounts_gives agree good.ordering isSeen origin
    exact ofOrdering_gives good call fun _ right => congrArg Answer.addresses right
  | orderedAccounts origin =>
    have call := AccountOrderingService.orderedAccounts_gives agree good.ordering isSeen origin
    exact ofOrdering_gives good call fun _ right => congrArg Answer.accounts right
  | orderedAccountsForTab =>
    have call := AccountOrderingService.orderedAccountsForTab_gives agree good.ordering isSeen
    exact ofOrdering_gives good call fun _ right => congrArg Answer.accounts right
  | lastConnectedInfo =>
    have call := AccountOrderingService.lastConnectedInfo_gives agree good.ordering isSeen
    exact ofOrdering_gives good call fun _ right => congrArg Answer.lastConnected right
  | permissionsForTab =>
    have call := AccountOrderingService.permissionsForTab_gives agree good.ordering isSeen
    exact ofOrdering_gives good call fun _ right => congrArg Answer.permissions right
  | connectionsOfSelected =>
    have call := AccountOrderingService.connectionsOfSelected_gives agree good.ordering isSeen
    exact ofOrdering_gives good call fun _ right => congrArg Answer.connections right
  | explainBridge =>
    have call := BridgeEligibilityService.explain_gives agree good.bridge isSeen
    exact ofBridge_gives good call fun _ right => congrArg Answer.eligibility right
  | isBridgeTransaction =>
    have call := BridgeEligibilityService.isBridgeTransaction_gives agree good.bridge isSeen
    exact ofBridge_gives good call fun _ right => congrArg Answer.isBridge right

/-- A sequence of queries is answered as if nothing were remembered: induction on the queries, each
of which is put to the reporter that the one before left. -/
theorem askAll_gives (agree : AllAgree seen) (calls : List (Snapshot Shared × Query))
    (areSeen : ∀ call ∈ calls, seen call.1) (good : r.Good seen resolver ordering supply) :
    (r.askAll calls).Ends supply
      (Gives (fun answers => answers.map Answer.values =
          calls.map fun call => call.1.answer resolver ordering call.2)
        (Good seen resolver ordering) supply) := by
  induction calls generalizing r supply with
  | nil => exact ⟨rfl, good, Nat.le_refl _⟩
  | cons call more ih =>
    obtain ⟨s, query⟩ := call
    obtain ⟨isSeen, areSeen⟩ := List.forall_mem_cons.1 areSeen
    refine Gives.bind (ask_gives agree good isSeen query) fun (answer, r) mid first => ?_
    refine Gives.bind (ih areSeen first.good) fun (answers, r) after others => ?_
    refine ⟨?_, others.good, Nat.le_refl _⟩
    show answer.values :: answers.map Answer.values = _
    rw [first.right, others.right]
    rfl

/-- **Memory is not to be seen.**  Whatever a new reporter is asked, about whatever snapshots and
however these share their slices, each answer has the value that is derived from that one snapshot
with no memory.  All that is supposed of the sharing is that no allocation has two contents, and in
a session none has (`Snapshot.Session.agree`). -/
theorem askAll_values (resolver : ResolverConfig) (ordering : OrderingConfig)
    (calls : List (Snapshot Shared × Query)) (supply : Supply)
    (agree : ∀ first ∈ calls, ∀ second ∈ calls, first.1.Agrees second.1) :
    (((configured resolver ordering).askAll calls supply).1.1).map Answer.values =
      calls.map fun call => call.1.answer resolver ordering call.2 := by
  have allAgree : AllAgree fun s => ∃ query, (s, query) ∈ calls := by
    rintro s t ⟨query, asked⟩ ⟨query', asked'⟩
    exact agree _ asked _ asked'
  have good := good_configured (fun s => ∃ query, (s, query) ∈ calls) resolver ordering supply
  exact (askAll_gives allAgree calls (fun call asked => ⟨call.2, asked⟩) good).right

/-- Asked about a snapshot, about its successor with one more request, and about the first again,
where the three have all other slices in common. -/
theorem askAll_values_of_successor :
    let first := (Snapshot.empty.share ⟨0⟩).1
    let request : PendingApproval := ⟨"1", .personalSign, 7, none⟩
    let second := { first with pendingApprovals := ⟨99, .insert .empty "1" request⟩ }
    (((configured .standard .standard).askAll
        [(first, .latestApproval), (second, .latestApproval), (first, .latestApproval)]
        ⟨0⟩).1.1).map Answer.values =
      [.approval none, .approval (some request), .approval none] := by
  intro first request second
  have agree : first.Agrees second := by
    intro slice same
    cases slice with
    | pendingApprovals => exact absurd same (by decide)
    | _ => rfl
  refine (askAll_values .standard .standard _ ⟨0⟩ ?_).trans rfl
  simp only [List.forall_mem_cons, List.not_mem_nil, false_imp_iff, implies_true, and_true]
  exact ⟨⟨.refl _, agree, .refl _⟩, ⟨agree.symm, .refl _, agree.symm⟩, ⟨.refl _, agree, .refl _⟩⟩

end WalletView.Reporter
