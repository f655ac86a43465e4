/-
# Proofs.Confirmation.Held — what is confirmed is the snapshot's own record

A resolver may answer for one snapshot with a trace that it computed for another.  It does so only
where the two hold the same slices, and the record in the trace lies in those slices.  So whatever a
resolver was asked before, the record that it gives for a snapshot is in an allocation that this
snapshot holds, under the id of the request that the route means there: never a copy, and never the
record of an earlier snapshot that this one has given up.

A run asks one resolver again and again, about any snapshots and in any order, while allocations are
made elsewhere.  One step keeps the invariant of the resolver and adds to the history only what the
snapshot itself resolves to (`Ran.Invariant.next`); the theorem on runs follows by induction.
-/
import WalletView.Confirmation.Source
import WalletView.Proofs.Confirmation.Resolution
import WalletView.Proofs.Map.Sorted
import WalletView.Proofs.Service.Confirmation

set_option autoImplicit false

namespace WalletView

/-! ## Candidates and their places -/

/-- A message under some key of a map is found there by its allocation. -/
theorem SortedMap.keyOf?_isSome {α : Type} {m : SortedMap (Shared α)} {key : String}
    {a : Shared α} (stored : m.get? key = some a) : (m.keyOf? a).isSome = true := by
  rw [SortedMap.keyOf?, Option.isSome_map, List.find?_isSome]
  exact ⟨_, SortedMap.get?_eq_some_iff.1 stored, Shared.sameAs_iff.2 rfl⟩

/-- The candidate of a request is held by the snapshot, in its very allocation. -/
theorem IsCandidate.placeOf?_isSome {s : Snapshot Shared} {approval : PendingApproval}
    {c : Confirmation Shared} (isCandidate : IsCandidate s approval c) :
    (s.placeOf? c).isSome = true := by
  cases isCandidate with
  | personal message signs stored =>
    have found : (s.unapprovedPersonalMsgs.value.keyOf? message).isSome = true :=
      SortedMap.keyOf?_isSome stored
    simp [Snapshot.placeOf?, found]
  | typed message signs noPersonal stored =>
    have found : (s.unapprovedTypedMessages.value.keyOf? message).isSome = true :=
      SortedMap.keyOf?_isSome stored
    simp [Snapshot.placeOf?, found]
  | transaction record before after transacts listed isNamed isFirst =>
    have member : record ∈ s.transactions.value := by
      rw [show s.transactions.value = before ++ record :: after from listed]
      exact List.mem_append_right _ List.mem_cons_self
    rw [Snapshot.placeOf?, Option.isSome_map, List.findIdx?_isSome, List.any_eq_true]
    exact ⟨record, member, Shared.sameAs_iff.2 rfl⟩

namespace ConfirmationResolver

/-! ## A run of a resolver -/

/-- What happens in a run: the resolver is asked what a route means in a snapshot, for the trace or
for the confirmation alone, or for the latest request; or allocations are made elsewhere. -/
inductive Step where
  | explain (s : Snapshot Shared) (route : Option String)
  | currentConfirmation (s : Snapshot Shared) (route : Option String)
  | latestApproval (s : Snapshot Shared)
  | allocate (count : Nat)

namespace Step

/-- The snapshot that a step is about. -/
def snapshot? : Step → Option (Snapshot Shared)
  | explain s _ => some s
  | currentConfirmation s _ => some s
  | latestApproval s => some s
  | allocate _ => none

/-- The snapshot and the route that a step asks to resolve. -/
def asked? : Step → Option (Snapshot Shared × Option String)
  | explain s route => some (s, route)
  | currentConfirmation s route => some (s, route)
  | latestApproval _ => none
  | allocate _ => none

end Step

/-- What was given to confirm, if anything, for a route in a snapshot. -/
structure Event where
  snapshot : Snapshot Shared
  route : Option String
  confirmation : Option (Confirmation Shared)

/-- A resolver after some steps, with its history, the latest event first. -/
structure Ran where
  history : List Event
  resolver : ConfirmationResolver
  supply : Supply

/-- One more step. -/
def Ran.next (ran : Ran) : Step → Ran
  | .explain s route =>
    let result := ran.resolver.explain s route ran.supply
    ⟨⟨s, route, result.1.1.value.confirmation⟩ :: ran.history, result.1.2, result.2⟩
  | .currentConfirmation s route =>
    let result := ran.resolver.currentConfirmation s route ran.supply
    ⟨⟨s, route, result.1.1⟩ :: ran.history, result.1.2, result.2⟩
  | .latestApproval s =>
    let result := ran.resolver.latestApproval s ran.supply
    ⟨ran.history, result.1.2, result.2⟩
  | .allocate count => ⟨ran.history, ran.resolver, ⟨ran.supply.next + count⟩⟩

/-- A new resolver after some steps, one after another. -/
def run (config : ResolverConfig) (start : Supply) (steps : List Step) : Ran :=
  steps.foldl Ran.next ⟨[], new config, start⟩

/-- The history has the questions of the steps. -/
theorem map_foldl_next (steps : List Step) (ran : Ran) :
    (steps.foldl Ran.next ran).history.map (fun e => (e.snapshot, e.route)) =
      (steps.filterMap Step.asked?).reverse ++ ran.history.map fun e => (e.snapshot, e.route) := by
  refine history_foldl (fun ran : Ran => ran.history.map fun e => (e.snapshot, e.route)) Step.asked?
    (fun ran step => ?_) steps ran
  cases step <;> rfl

/-- What holds after every step: the resolver remembers what is right for the snapshots seen, and
all that it gave to confirm is what the snapshot in question resolves to, in its own allocations. -/
structure Ran.Invariant (seen : Snapshot Shared → Prop) (config : ResolverConfig) (ran : Ran) :
    Prop where
  good : ran.resolver.Good seen config ran.supply
  resolved : ∀ e ∈ ran.history,
    e.confirmation = (resolve e.snapshot e.route config).confirmation

namespace Ran.Invariant

variable {seen : Snapshot Shared → Prop} {config : ResolverConfig} {ran : Ran}

theorem start (seen : Snapshot Shared → Prop) (config : ResolverConfig) (supply : Supply) :
    (⟨[], new config, supply⟩ : Ran).Invariant seen config where
  good := good_new seen config supply
  resolved _ given := absurd given List.not_mem_nil

/-- One step keeps the invariant. -/
theorem next (agree : AllAgree seen) (invariant : ran.Invariant seen config) (step : Step)
    (isSeen : ∀ s ∈ step.snapshot?, seen s) : (ran.next step).Invariant seen config := by
  cases step with
  | explain s route =>
    have gives := explain_gives agree invariant.good (isSeen s rfl) route
    have isResolved := congrArg ResolutionTrace.confirmation gives.right
    exact ⟨gives.good, List.forall_mem_cons.2 ⟨isResolved, invariant.resolved⟩⟩
  | currentConfirmation s route =>
    have gives := currentConfirmation_gives agree invariant.good (isSeen s rfl) route
    exact ⟨gives.good, List.forall_mem_cons.2 ⟨gives.right, invariant.resolved⟩⟩
  | latestApproval s =>
    have gives := latestApproval_gives agree invariant.good (isSeen s rfl)
    exact ⟨gives.good, invariant.resolved⟩
  | allocate count =>
    exact ⟨invariant.good.mono (Nat.le_add_right _ _), invariant.resolved⟩

/-- One step after another keeps the invariant. -/
theorem foldl (agree : AllAgree seen) (steps : List Step)
    (areSeen : ∀ step ∈ steps, ∀ s ∈ step.snapshot?, seen s)
    (invariant : ran.Invariant seen config) : (steps.foldl Ran.next ran).Invariant seen config := by
  induction steps generalizing ran with
  | nil => exact invariant
  | cons step more ih =>
    obtain ⟨isSeen, areSeen⟩ := List.forall_mem_cons.1 areSeen
    exact ih areSeen (invariant.next agree step isSeen)

end Ran.Invariant

/-- **A confirmation is never detached from the snapshot that it is shown for.**  Whenever a
resolver gives a record to confirm, for whatever snapshots it was asked before, the record has a
place in the snapshot at hand, and it is the candidate there of the request that the route means:
the very allocation that is stored under the request's id, among the personal messages or, if these
have none, among the typed ones, or that is the first transaction with the request's id.  All that
is supposed of the snapshots is that no allocation has two contents. -/
theorem run_confirmation_held (config : ResolverConfig) (start : Supply) (steps : List Step)
    (agree : ∀ s ∈ steps.filterMap Step.snapshot?, ∀ t ∈ steps.filterMap Step.snapshot?,
      s.Agrees t) :
    let ran := run config start steps
    ran.history.map (fun e => (e.snapshot, e.route)) = (steps.filterMap Step.asked?).reverse ∧
      ∀ e ∈ ran.history, ∀ c, e.confirmation = some c →
        (e.snapshot.placeOf? c).isSome = true ∧
          ∃ approval, selectTarget e.snapshot.pendingApprovals.value e.route = some approval ∧
            IsCandidate e.snapshot approval c := by
  intro ran
  have invariant : ran.Invariant (· ∈ steps.filterMap Step.snapshot?) config := by
    refine (Ran.Invariant.start _ config start).foldl
      (fun s t isSeen isSeen' => agree s isSeen t isSeen') steps fun step member s isAbout => ?_
    exact List.mem_filterMap.2 ⟨step, member, isAbout⟩
  refine ⟨(map_foldl_next steps _).trans (List.append_nil _), fun e given c confirmed => ?_⟩
  rw [invariant.resolved e given] at confirmed
  obtain ⟨approval, isTarget, isCandidate, -⟩ :=
    (resolveTarget_confirmation_iff e.snapshot _ config c).1 confirmed
  exact ⟨isCandidate.placeOf?_isSome, approval, isTarget, isCandidate⟩

/-- A typed message is given from memory for a successor that has other subjects: it was found for
the snapshot before, and it is the successor's own. -/
theorem run_confirmation_held_remembered :
    let request : PendingApproval := ⟨"1", .personalSign, 0, none⟩
    let message : Shared SignableMessage := ⟨20, ⟨"1", .empty⟩⟩
    let s : Snapshot Shared :=
      { (Snapshot.empty.share ⟨0⟩).1 with
        pendingApprovals := ⟨21, .insert .empty "1" request⟩
        unapprovedTypedMessages := ⟨22, .insert .empty "1" message⟩
        preferences := ⟨23, ⟨true⟩⟩ }
    let t := { s with subjects := ⟨24, .ofList [("a", ⟨none, .empty⟩)]⟩ }
    let ran := run .standard ⟨100⟩ [.explain s none, .allocate 3, .currentConfirmation t none]
    ran.resolver.resolution.hits = 1 ∧
      ∃ e ∈ ran.history, e.snapshot = t ∧ e.confirmation = some (.signature message) ∧
        (t.placeOf? (.signature message)).isSome = true := by
  intro request message s t ran
  have agree : s.Agrees t := by
    intro slice same
    cases slice with
    | subjects => exact absurd same (by decide)
    | _ => rfl
  have held := (run_confirmation_held .standard ⟨100⟩
    [.explain s none, .allocate 3, .currentConfirmation t none] ?_).2
  · refine ⟨rfl, ⟨t, none, some (.signature message)⟩, List.mem_cons_self, rfl, rfl, ?_⟩
    exact (held ⟨t, none, some (.signature message)⟩ List.mem_cons_self _ rfl).1
  · simp only [List.filterMap_cons, List.filterMap_nil, Step.snapshot?, List.forall_mem_cons,
      List.not_mem_nil, false_imp_iff, implies_true, and_true]
    exact ⟨⟨.refl _, agree⟩, agree.symm, .refl _⟩

end ConfirmationResolver

end WalletView
