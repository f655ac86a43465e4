/-
# Proofs.Report.ActiveTab — the active tab's accounts, asked for and reported

The accounts of the active tab are given in two ways: to one who asks for them, and in a report for
no origin in particular.  While the tab has an origin, both are the accounts of this origin.  Without
one the report has none, but to ask for the tab's accounts or its permissions is then to ask for
those of the empty origin.

The two ways come apart in one place only.  Subjects may have any key, the empty one too; where none
has that key, the empty origin is unknown, and an unknown site is shown nothing
(`Snapshot.orderedAccounts_of_unknown`).
-/
import WalletView.Proofs.Report.Connections

set_option autoImplicit false

namespace WalletView

/-! ## Unknown sites -/

theorem permissionsForOrigin_of_unknown {subjects : IdMap Subject} {origin : Origin}
    (isUnknown : subjects.get? origin = none) : permissionsForOrigin subjects origin = [] := by
  rw [permissionsForOrigin, isUnknown]

/-- A site that may see no address is shown no account. -/
theorem orderConnectedAccounts_nil (accounts : InternalAccounts) (keyrings : List KeyringGroup)
    (history : PermissionHistory) (origin : Origin) (config : OrderingConfig) :
    orderConnectedAccounts ⟨[], accounts, keyrings, history⟩ origin config = [] :=
  List.mergeSort_nil

namespace Snapshot

variable {s : Snapshot Shared}

theorem orderedAccounts_of_unknown {origin : Origin}
    (isUnknown : s.subjects.value.get? origin = none) (config : OrderingConfig) :
    s.orderedAccounts origin config = [] := by
  have permitsNone : permittedAccounts s.subjects.value origin config = [] := by
    rw [permittedAccounts, isUnknown]
  rw [orderedAccounts, permitsNone]
  exact orderConnectedAccounts_nil _ _ _ _ _

/-- The accounts in a report for no origin in particular are those of the active tab. -/
theorem orderedAccounts_report (resolver : ResolverConfig) (ordering : OrderingConfig)
    (route : Option String) :
    (s.report resolver ordering route none).orderedAccounts =
      s.activeOrigin?.elim [] (s.orderedAccounts · ordering) :=
  rfl

end Snapshot

/-! ## What reporters say -/

namespace Reporter

variable {resolver : ResolverConfig} {ordering : OrderingConfig} {s : Snapshot Shared}
  {r : Reporter} {supply : Supply}

theorem Reached.orderedAccountsForTab_value (reached : Reached resolver ordering s r supply) :
    (r.ordering.orderedAccountsForTab s supply).1.1.value =
      s.orderedAccounts (s.activeOrigin?.getD "") ordering :=
  reached.orderedAccounts_value _

theorem Reached.permissionsForTab_value (reached : Reached resolver ordering s r supply) :
    (r.ordering.permissionsForTab s supply).1.1.value =
      permissionsForOrigin s.subjects.value (s.activeOrigin?.getD "") := by
  obtain ⟨seen, agree, isSeen, good⟩ := reached.good
  exact (AccountOrderingService.permissionsForTab_gives agree good.ordering isSeen).right

theorem Reached.report_values (reached : Reached resolver ordering s r supply)
    (route : Option String) (origin : Option Origin) :
    (r.report s route origin supply).1.1.values = s.report resolver ordering route origin := by
  obtain ⟨seen, agree, isSeen, good⟩ := reached.good
  exact (report_gives agree good isSeen route origin).right

/-- **The active tab's accounts are those that are reported, unless the tab has no origin and the
empty origin is shown an account.**  The two may be asked for at different times, of reporters with
different pasts.  Without an origin none are reported, whatever the subjects are; the accounts and
permissions that are given for the tab are then those of the empty origin, and there are none where
no subject has the empty key. -/
theorem activeTab_eq_reported_iff {r' : Reporter} {supply' : Supply}
    (reached : Reached resolver ordering s r supply)
    (reached' : Reached resolver ordering s r' supply') (route : Option String) :
    let shown := (r.ordering.orderedAccountsForTab s supply).1.1.value
    let permissions := (r.ordering.permissionsForTab s supply).1.1.value
    let reported := (r'.report s route none supply').1.1.orderedAccounts.value
    (shown = reported ↔ (s.activeOrigin? = none → s.orderedAccounts "" ordering = [])) ∧
      (s.activeOrigin? = none →
        reported = [] ∧ shown = s.orderedAccounts "" ordering ∧
          permissions = permissionsForOrigin s.subjects.value "" ∧
          (s.subjects.value.get? "" = none → shown = [] ∧ permissions = [])) := by
  intro shown permissions reported
  have isShown : shown = s.orderedAccounts (s.activeOrigin?.getD "") ordering :=
    reached.orderedAccountsForTab_value
  have isPermitted : permissions =
      permissionsForOrigin s.subjects.value (s.activeOrigin?.getD "") :=
    reached.permissionsForTab_value
  have isReported : reported = s.activeOrigin?.elim [] (s.orderedAccounts · ordering) := by
    rw [← Snapshot.orderedAccounts_report resolver ordering route]
    exact congrArg Report.orderedAccounts (reached'.report_values route none)
  rw [isShown, isPermitted, isReported]
  cases s.activeOrigin? with
  | some origin => exact ⟨⟨fun _ => nofun, fun _ => rfl⟩, nofun⟩
  | none =>
    refine ⟨⟨fun agree _ => agree, fun isEmpty => isEmpty rfl⟩, fun _ => ⟨rfl, rfl, rfl, ?_⟩⟩
    intro isUnknown
    exact ⟨Snapshot.orderedAccounts_of_unknown isUnknown ordering,
      permissionsForOrigin_of_unknown isUnknown⟩

/-- A tab without an origin, asked about after a report of the same snapshot: the one site that is
known is not shown in its place. -/
theorem activeTab_eq_reported_iff_unknown :
    let permission : Permission :=
      ⟨[⟨"restrictReturnedAccounts", .array [.string "0xa"]⟩], 0, "", "", ""⟩
    let account : AccountRecord := ⟨"1", "0xa", .empty, .empty, [], ""⟩
    let s : Snapshot Shared := (Snapshot.share
      { Snapshot.empty with
        subjects := .ofList [("a", ⟨none, .ofList [("eth_accounts", permission)]⟩)]
        internalAccounts := ⟨.ofList [("1", account)], "1"⟩ } ⟨0⟩).1
    let left := (configured .standard .standard).askAll [(s, .report none (some "a"))] ⟨20⟩
    s.activeOrigin? = none ∧ s.subjects.value.get? "" = none ∧
      (left.1.2.ordering.orderedAccountsForTab s left.2).1.1.value = [] ∧
      (left.1.2.ordering.permissionsForTab s left.2).1.1.value = [] := by
  intro permission account s left
  have reached : Reached .standard .standard s left.1.2 left.2 := by
    refine ⟨[(s, .report none (some "a"))], ⟨20⟩, ?_, rfl⟩
    simp [Snapshot.Agrees.refl]
  have reached' := reached_configured .standard .standard s ⟨20⟩
  have hasNone : s.activeOrigin? = none := rfl
  have isUnknown : s.subjects.value.get? "" = none := rfl
  obtain ⟨-, without⟩ := activeTab_eq_reported_iff reached reached' none
  obtain ⟨-, -, -, areNone⟩ := without hasNone
  exact ⟨hasNone, isUnknown, areNone isUnknown⟩

/-- **A subject under the empty key is shown to a tab without an origin**, accounts and permissions
both, while the report has no accounts. -/
theorem activeTab_empty_origin :
    let permission : Permission :=
      ⟨[⟨"restrictReturnedAccounts", .array [.string "0xa"]⟩], 0, "", "", ""⟩
    let account : AccountRecord := ⟨"1", "0xa", .empty, .empty, [], ""⟩
    let s : Snapshot Shared := (Snapshot.share
      { Snapshot.empty with
        subjects := .ofList [("", ⟨none, .ofList [("eth_accounts", permission)]⟩)]
        internalAccounts := ⟨.ofList [("1", account)], "1"⟩ } ⟨0⟩).1
    s.activeOrigin? = none ∧
      (new.ordering.orderedAccountsForTab s ⟨20⟩).1.1.value.map AccountRecord.id = ["1"] ∧
      (new.ordering.permissionsForTab s ⟨20⟩).1.1.value = [⟨"eth_accounts", permission⟩] ∧
      (new.report s none none ⟨20⟩).1.1.orderedAccounts.value = [] := by
  intro permission account s
  have isShown :
      (new.ordering.orderedAccountsForTab s ⟨20⟩).1.1.value.map AccountRecord.id = ["1"] := by
    decide +kernel
  exact ⟨rfl, isShown, rfl, rfl⟩

end Reporter

end WalletView
