/-
# Proofs.Service.Exposure — what is remembered of exposed accounts is right

The invariant of the service (`AccountOrderingService.Good`): each of its five selectors keeps what
its derivation gives for slices of seen snapshots, and the orders are kept under allow-lists of the
first selector.  An allow-list is allocated once and handed out for as long as it comes out equal,
also for other slices and other origins; so an order that is found under one was computed for that
very list.
-/
import WalletView.Proofs.Service.Basic
import WalletView.Service.Exposure
import WalletView.Report.Query

set_option autoImplicit false

namespace WalletView.AccountOrderingService

/-- What the service remembers is right for seen snapshots. -/
structure Good (seen : Snapshot Shared → Prop) (config : OrderingConfig)
    (a : AccountOrderingService) (supply : Supply) : Prop where
  configured : a.config = config
  permitted : a.permitted.Keeps (fun inputs => ∃ s origin, seen s ∧ inputs = (s.subjects, origin))
    fun (subjects, origin) => WalletView.permittedAccounts subjects.value origin config
  ordered : a.ordered.Keeps
    (fun inputs => ∃ s permitted origin, seen s ∧ inputs =
      (permitted, s.internalAccounts, s.keyrings, s.permissionHistory, origin))
    (computeOrder config)
  lastConnected : a.lastConnected.Keeps (fun inputs => ∃ s, seen s ∧ inputs = s.permissionHistory)
    fun history => WalletView.lastConnectedInfo history.value config
  tabPermissions : a.tabPermissions.Keeps
    (fun inputs => ∃ s origin, seen s ∧ inputs = (s.subjects, origin))
    fun (subjects, origin) => permissionsForOrigin subjects.value origin
  connectedSubjects : a.connectedSubjects.Keeps
    (fun inputs => ∃ s, seen s ∧ inputs = (s.subjects, s.subjectMetadata, s.internalAccounts))
    (computeConnections config)
  chained : a.permitted.Chained (a.ordered.entry.map fun entry => entry.1.1) supply

variable {seen : Snapshot Shared → Prop} {config : OrderingConfig} {a : AccountOrderingService}
  {supply after : Supply} {s : Snapshot Shared}

theorem good_new (seen : Snapshot Shared → Prop) (config : OrderingConfig) (supply : Supply) :
    (new config).Good seen config supply where
  configured := rfl
  permitted := .new _ _ _
  ordered := .new _ _ _
  lastConnected := .new _ _ _
  tabPermissions := .new _ _ _
  connectedSubjects := .new _ _ _
  chained := .new _ _

theorem Good.mono (good : a.Good seen config supply) (grows : supply.next ≤ after.next) :
    a.Good seen config after :=
  { good with chained := good.chained.mono grows }

/-- The subjects of seen snapshots, each with an origin, are coherent inputs. -/
theorem coherent_subjects (agree : AllAgree seen) (x y : subjectInputs.Value)
    (drawn : ∃ s origin, seen s ∧ x = (s.subjects, origin))
    (drawn' : ∃ s origin, seen s ∧ y = (s.subjects, origin)) : subjectInputs.Coherent x y := by
  obtain ⟨s, origin, seenS, rfl⟩ := drawn
  obtain ⟨t, origin', seenT, rfl⟩ := drawn'
  exact ⟨agree s t seenS seenT .subjects, trivial⟩

/-- A call for an allow-list calls the first selector and changes nothing else. -/
theorem permittedAccounts_renews (agree : AllAgree seen) (good : a.Good seen config supply)
    (isSeen : seen s) (origin : Origin) :
    (a.permittedAccounts s origin).Ends supply fun result after =>
      ∃ lists, result.2 = { a with permitted := lists } ∧
        a.permitted.Renews (fun inputs => ∃ s origin, seen s ∧ inputs = (s.subjects, origin))
          (fun (subjects, origin) => WalletView.permittedAccounts subjects.value origin config)
          (s.subjects, origin) supply (result.1, lists) after := by
  obtain rfl := good.configured
  have coherent := good.permitted.coherent ⟨s, origin, isSeen, rfl⟩ (coherent_subjects agree)
  refine .bind (good.permitted.selectReusingEqual_renews supply ⟨s, origin, isSeen, rfl⟩ coherent)
    fun (addresses, lists) after call => ?_
  exact ⟨lists, rfl, call⟩

/-- The allow-list given is the snapshot's for the origin. -/
theorem permittedAccounts_gives (agree : AllAgree seen) (good : a.Good seen config supply)
    (isSeen : seen s) (origin : Origin) :
    (a.permittedAccounts s origin).Ends supply
      (Gives (fun addresses =>
          addresses.value = WalletView.permittedAccounts s.subjects.value origin config)
        (Good seen config) supply) := by
  refine (permittedAccounts_renews agree good isSeen origin).imp fun result after ends => ?_
  obtain ⟨lists, service, call⟩ := ends
  refine ⟨call.value, ?_, call.grows⟩
  rw [service]
  exact { good with permitted := call.keeps, chained := good.chained.call call.toAnswers }

/-- **The accounts given are the snapshot's for the origin, in order.** -/
theorem orderedAccounts_gives (agree : AllAgree seen) (good : a.Good seen config supply)
    (isSeen : seen s) (origin : Origin) :
    (a.orderedAccounts s origin).Ends supply
      (Gives (fun accounts => accounts.value = s.orderedAccounts origin config)
        (Good seen config) supply) := by
  refine .bind (permittedAccounts_renews agree good isSeen origin) ?_
  rintro ⟨addresses, _⟩ mid ⟨lists, rfl, first⟩
  -- The allow-list is an input by identity: the list that the last order was kept under comes back
  -- only as that very list, even where it was handed out again for other subjects.
  have coherent : a.ordered.Remembers fun previous _ => orderInputs.Coherent
      (addresses, s.internalAccounts, s.keyrings, s.permissionHistory, origin) previous := by
    intro previous answer entry
    obtain ⟨⟨t, old, origin', seenT, rfl⟩, -⟩ := good.ordered previous answer entry
    have sameList := good.chained.answer_coherent first.toAnswers old (by simp [entry])
    have slices := agree s t isSeen seenT
    exact ⟨sameList, slices .internalAccounts, slices .keyrings, slices .permissionHistory, trivial⟩
  obtain rfl := good.configured
  refine .bind (good.ordered.select_renews mid ⟨s, addresses, origin, isSeen, rfl⟩ coherent)
    fun (accounts, orders) after second => ?_
  have isOrder : accounts.value = s.orderedAccounts origin a.config := by
    have isList : addresses.value = WalletView.permittedAccounts s.subjects.value origin a.config :=
      first.value
    rw [second.value, Snapshot.orderedAccounts, ← isList]
    rfl
  have chained : lists.Chained (orders.entry.map fun entry => entry.1.1) after := by
    rw [second.entry]
    exact (good.chained.given first.toAnswers).mono second.grows
  exact ⟨isOrder, { good with permitted := first.keeps, ordered := second.keeps, chained },
    Nat.le_trans first.grows second.grows⟩

/-- The accounts given for the active tab are those of its origin, or of the empty one. -/
theorem orderedAccountsForTab_gives (agree : AllAgree seen) (good : a.Good seen config supply)
    (isSeen : seen s) :
    (a.orderedAccountsForTab s).Ends supply
      (Gives (fun accounts =>
          accounts.value = s.orderedAccounts (s.activeOrigin?.getD "") config)
        (Good seen config) supply) :=
  orderedAccounts_gives agree good isSeen _

/-- The accounts last shown are those of the snapshot's history. -/
theorem lastConnectedInfo_gives (agree : AllAgree seen) (good : a.Good seen config supply)
    (isSeen : seen s) :
    (a.lastConnectedInfo s).Ends supply
      (Gives (fun info =>
          info.value = WalletView.lastConnectedInfo s.permissionHistory.value config)
        (Good seen config) supply) := by
  have coherent := good.lastConnected.coherent ⟨s, isSeen, rfl⟩ <| by
    rintro _ _ ⟨t, seenT, rfl⟩ ⟨u, seenU, rfl⟩
    exact agree t u seenT seenU .permissionHistory
  obtain rfl := good.configured
  refine .bind (good.lastConnected.select_renews supply ⟨s, isSeen, rfl⟩ coherent)
    fun (info, lastConnected) after call => ?_
  exact ⟨call.value, { good.mono call.grows with lastConnected := call.keeps }, call.grows⟩

/-- The capabilities given are those of the active tab's site. -/
theorem permissionsForTab_gives (agree : AllAgree seen) (good : a.Good seen config supply)
    (isSeen : seen s) :
    (a.permissionsForTab s).Ends supply
      (Gives (fun entries =>
          entries.value = permissionsForOrigin s.subjects.value (s.activeOrigin?.getD ""))
        (Good seen config) supply) := by
  have coherent := good.tabPermissions.coherent ⟨s, s.activeOrigin?.getD "", isSeen, rfl⟩
    (coherent_subjects agree)
  refine .bind (good.tabPermissions.select_renews supply
      ⟨s, s.activeOrigin?.getD "", isSeen, rfl⟩ coherent)
    fun (entries, tabPermissions) after call => ?_
  exact ⟨call.value, { good.mono call.grows with tabPermissions := call.keeps }, call.grows⟩

/-- The sites given are those that may see the snapshot's selected account. -/
theorem connectionsOfSelected_gives (agree : AllAgree seen) (good : a.Good seen config supply)
    (isSeen : seen s) :
    (a.connectionsOfSelected s).Ends supply
      (Gives (fun sites => sites.value = s.connectionsOfSelected config)
        (Good seen config) supply) := by
  have coherent := good.connectedSubjects.coherent ⟨s, isSeen, rfl⟩ <| by
    rintro _ _ ⟨t, seenT, rfl⟩ ⟨u, seenU, rfl⟩
    have slices := agree t u seenT seenU
    exact ⟨slices .subjects, slices .subjectMetadata, slices .internalAccounts⟩
  obtain rfl := good.configured
  refine .bind (good.connectedSubjects.select_renews supply ⟨s, isSeen, rfl⟩ coherent)
    fun (sites, connectedSubjects) after call => ?_
  exact ⟨call.value, { good.mono call.grows with connectedSubjects := call.keeps }, call.grows⟩

end WalletView.AccountOrderingService
