/-
# Proofs.Report.Connections — the sites of an account and the accounts of a site

A reporter says which sites may see the selected account, and which accounts a site sees.  The two
answers are never at odds about one snapshot, whatever the reporter was asked before either of them:
both have the values that the snapshot gives (`Reached.connectionsOfSelected_value`,
`Reached.orderedAccounts_value`), and of these values it is known that they agree.
-/
import WalletView.Proofs.Exposure.Connections
import WalletView.Proofs.Report.Query

set_option autoImplicit false

namespace WalletView

/-! ## The sites of one snapshot -/

namespace Snapshot

variable {s : Snapshot Shared} {config : OrderingConfig} {account : AccountRecord}

theorem connectionsOfSelected_of_selected
    (selected : s.internalAccounts.value.selected? = some account) :
    s.connectionsOfSelected config =
      connectedSubjects s.subjects.value s.subjectMetadata.value account.address config := by
  rw [connectionsOfSelected, selected]

theorem connectionsOfSelected_of_none (selected : s.internalAccounts.value.selected? = none) :
    s.connectionsOfSelected config = [] := by
  rw [connectionsOfSelected, selected]

/-- A site is listed for the selected account when the account is shown to it. -/
theorem mem_connectionsOfSelected_iff
    (selected : s.internalAccounts.value.selected? = some account) (origin : Origin) :
    origin ∈ (s.connectionsOfSelected config).map ConnectedSubject.origin ↔
      ∃ shown ∈ s.orderedAccounts origin config, shown.EqualButLastActive account := by
  have isAccount : account ∈ s.internalAccounts.value.accounts.values :=
    IdMap.mem_values_of_get? selected
  rw [connectionsOfSelected_of_selected selected, mem_connectedSubjects_iff, orderedAccounts,
    mem_orderConnectedAccounts_iff isAccount]

theorem connectionsOfSelected_sublist (s : Snapshot Shared) (config : OrderingConfig) :
    ((s.connectionsOfSelected config).map ConnectedSubject.origin).Sublist
      (s.subjects.value.entries.map Prod.fst) := by
  cases selected : s.internalAccounts.value.selected? with
  | none => rw [connectionsOfSelected_of_none selected]; exact List.nil_sublist _
  | some account =>
    rw [connectionsOfSelected_of_selected selected]
    exact connectedSubjects_sublist _ _ _ _

theorem metadata_of_mem_connectionsOfSelected {site : ConnectedSubject}
    (member : site ∈ s.connectionsOfSelected config) :
    site.metadata = (s.subjectMetadata.value.get? site.origin).getD ⟨none, none, none⟩ := by
  cases selected : s.internalAccounts.value.selected? with
  | none => rw [connectionsOfSelected_of_none selected] at member; cases member
  | some account =>
    rw [connectionsOfSelected_of_selected selected] at member
    exact metadata_of_mem_connectedSubjects member

end Snapshot

/-! ## What a reporter says of them -/

namespace Reporter

/-- A reporter as some queries left it, before it is asked about a given snapshot; no two of the
snapshots in question give two contents to one allocation. -/
def Reached (resolver : ResolverConfig) (ordering : OrderingConfig) (s : Snapshot Shared)
    (r : Reporter) (supply : Supply) : Prop :=
  ∃ (calls : List (Snapshot Shared × Query)) (start : Supply),
    (∀ t ∈ s :: calls.map Prod.fst, ∀ u ∈ s :: calls.map Prod.fst, t.Agrees u) ∧
      (((configured resolver ordering).askAll calls start).1.2,
        ((configured resolver ordering).askAll calls start).2) = (r, supply)

variable {resolver : ResolverConfig} {ordering : OrderingConfig} {s : Snapshot Shared}
  {r : Reporter} {supply : Supply}

/-- A new reporter may be asked about any snapshot. -/
theorem reached_configured (resolver : ResolverConfig) (ordering : OrderingConfig)
    (s : Snapshot Shared) (supply : Supply) :
    Reached resolver ordering s (configured resolver ordering) supply := by
  refine ⟨[], supply, ?_, rfl⟩
  simp [Snapshot.Agrees.refl]

/-- What a reporter remembers is right for snapshots that agree with the one it is asked about. -/
theorem Reached.good (reached : Reached resolver ordering s r supply) :
    ∃ seen, AllAgree seen ∧ seen s ∧ r.Good seen resolver ordering supply := by
  obtain ⟨calls, start, agree, left⟩ := reached
  obtain ⟨rfl, rfl⟩ := Prod.mk.inj left
  refine ⟨(· ∈ s :: calls.map Prod.fst), fun t u isT isU => agree t isT u isU,
    List.mem_cons_self, ?_⟩
  refine (askAll_gives (fun t u isT isU => agree t isT u isU) calls ?_
    (good_configured _ resolver ordering start)).good
  exact fun call asked => List.mem_cons_of_mem _ (List.mem_map.2 ⟨call, asked, rfl⟩)

theorem Reached.connectionsOfSelected_value (reached : Reached resolver ordering s r supply) :
    (r.ordering.connectionsOfSelected s supply).1.1.value = s.connectionsOfSelected ordering := by
  obtain ⟨seen, agree, isSeen, good⟩ := reached.good
  exact (AccountOrderingService.connectionsOfSelected_gives agree good.ordering isSeen).right

theorem Reached.orderedAccounts_value (reached : Reached resolver ordering s r supply)
    (origin : Origin) :
    (r.ordering.orderedAccounts s origin supply).1.1.value = s.orderedAccounts origin ordering := by
  obtain ⟨seen, agree, isSeen, good⟩ := reached.good
  exact (AccountOrderingService.orderedAccounts_gives agree good.ordering isSeen origin).right

/-- **The two views of who sees what agree.**  Asked for the sites of the selected account, at any
time, and for the accounts of any origin, at any other, reporters list the origin exactly if they
show it the account.  The sites come in the order of the subjects, none twice, each with its own
metadata; if no account is selected there are none. -/
theorem connections_iff_shown {r' : Reporter} {supply' : Supply}
    (reached : Reached resolver ordering s r supply)
    (reached' : Reached resolver ordering s r' supply') :
    let sites := (r.ordering.connectionsOfSelected s supply).1.1.value
    (∀ account, s.internalAccounts.value.selected? = some account → ∀ origin,
        (origin ∈ sites.map ConnectedSubject.origin ↔
          ∃ shown ∈ (r'.ordering.orderedAccounts s origin supply').1.1.value,
            shown.EqualButLastActive account)) ∧
      (sites.map ConnectedSubject.origin).Sublist (s.subjects.value.entries.map Prod.fst) ∧
      (sites.map ConnectedSubject.origin).Nodup ∧
      (∀ site ∈ sites,
        site.metadata = (s.subjectMetadata.value.get? site.origin).getD ⟨none, none, none⟩) ∧
      (s.internalAccounts.value.selected? = none → sites = []) := by
  intro sites
  have isSites : sites = s.connectionsOfSelected ordering := reached.connectionsOfSelected_value
  have inOrder := s.connectionsOfSelected_sublist ordering
  rw [isSites]
  refine ⟨fun account selected origin => ?_, inOrder, ?_, ?_, ?_⟩
  · rw [reached'.orderedAccounts_value origin]
    exact Snapshot.mem_connectionsOfSelected_iff selected origin
  · exact inOrder.nodup s.subjects.value.nodup
  · exact fun site member => Snapshot.metadata_of_mem_connectionsOfSelected member
  · exact Snapshot.connectionsOfSelected_of_none

/-- A site that is permitted the selected address, in other letters, is shown the account with the
time at which it last was. -/
theorem connections_iff_shown_stamped :
    let permission : Permission :=
      ⟨[⟨"restrictReturnedAccounts", .array [.string "0xAB"]⟩], 0, "", "", ""⟩
    let shownBefore : PermissionHistoryEntry := ⟨.ofList [("0xab", 7)], none⟩
    let account : AccountRecord := ⟨"1", "0xab", .empty, .empty, [], ""⟩
    let s : Snapshot Shared := (Snapshot.share
      { Snapshot.empty with
        subjects := .ofList [("a", ⟨none, .ofList [("eth_accounts", permission)]⟩)]
        permissionHistory := .ofList [("a", .ofList [("eth_accounts", shownBefore)])]
        internalAccounts := ⟨.ofList [("1", account)], "1"⟩ } ⟨0⟩).1
    ∃ shown ∈ ((configured .standard .standard).ordering.orderedAccounts s "a" ⟨20⟩).1.1.value,
      shown.EqualButLastActive account := by
  intro permission shownBefore account s
  have reached := reached_configured .standard .standard s ⟨20⟩
  exact ((connections_iff_shown reached reached).1 account rfl "a").1 (by decide)

end Reporter

end WalletView
