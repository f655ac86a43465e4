/-
# Proofs.Exposure.Scope — what an origin sees depends on its own scope alone

The *scope* of an origin is what its allow-list permits of the inputs: the accounts with a permitted
address, the permitted addresses of the keyrings, and the times at which the account capability
showed the origin permitted addresses.  Inputs with one scope show the origin the same accounts in
the same order.  Cutting the keyrings down moves every position in them, but of two permitted
addresses the one that came first still does (`compare_placeIn_filter`).
-/
import WalletView.Proofs.Exposure.Ordering
import WalletView.Proofs.Exposure.Place

set_option autoImplicit false

namespace WalletView

/-! ## Scopes -/

/-- The entries of a map whose records are kept, where they stood. -/
def IdMap.filter {α : Type} (keep : α → Bool) (m : IdMap α) : IdMap α where
  entries := m.entries.filter fun entry => keep entry.2
  nodup := m.nodup.sublist (List.filter_sublist.map Prod.fst)

/-- The entries of a map whose names are kept. -/
def SortedMap.filter {α : Type} (keep : String → Bool) (m : SortedMap α) : SortedMap α where
  entries := m.entries.filter fun entry => keep entry.1
  sorted := m.sorted.sublist (List.filter_sublist.map Prod.fst)

namespace OrderingInputs

variable (inputs : OrderingInputs)

/-- The records that are permitted, in the order of the account map. -/
def scopedRecords : List AccountRecord :=
  inputs.accounts.accounts.values.filter fun account => isPermitted inputs.permitted account.address

/-- The addresses that are permitted, in the order of the keyrings. -/
def scopedAddresses : List Address :=
  (inputs.keyrings.flatMap KeyringGroup.accounts).filter (isPermitted inputs.permitted)

/-- The permitted addresses that an origin was shown under the account capability, with the times
of that. -/
def scopedHistory (origin : Origin) (config : OrderingConfig) : List (Address × UInt64) :=
  match exposureHistory? inputs.history origin config with
  | some entry => entry.accounts.entries.filter fun shown => isPermitted inputs.permitted shown.1
  | none => []

/-- The same allow-list, and the same scope of an origin. -/
structure AgreeWithin (origin : Origin) (config : OrderingConfig) (i j : OrderingInputs) :
    Prop where
  permitted : i.permitted = j.permitted
  records : i.scopedRecords = j.scopedRecords
  addresses : i.scopedAddresses = j.scopedAddresses
  history : i.scopedHistory origin config = j.scopedHistory origin config

/-- The inputs cut down to the scope of an origin: of the account map its permitted entries, one
keyring with the permitted addresses, and a history of this origin and the account capability
alone, with the permitted addresses. -/
def narrowed (origin : Origin) (config : OrderingConfig) : OrderingInputs where
  permitted := inputs.permitted
  accounts :=
    { inputs.accounts with
      accounts := inputs.accounts.accounts.filter fun account =>
        isPermitted inputs.permitted account.address }
  keyrings := [⟨none, inputs.scopedAddresses⟩]
  history :=
    match exposureHistory? inputs.history origin config with
    | some entry =>
      let shown := { entry with accounts := entry.accounts.filter (isPermitted inputs.permitted) }
      ⟨[(origin, ⟨[(config.accountsCapability, shown)], by simp⟩)], by simp⟩
    | none => .empty

theorem agreeWithin_narrowed (origin : Origin) (config : OrderingConfig) :
    AgreeWithin origin config inputs (inputs.narrowed origin config) := by
  refine ⟨rfl, ?_, ?_, ?_⟩
  · show _ = List.filter _ (List.map Prod.snd (List.filter _ _))
    rw [scopedRecords, IdMap.values, List.filter_map, List.filter_map, List.filter_filter]
    simp only [Function.comp_def, narrowed, Bool.and_self]
  · show _ = List.filter _ (List.flatMap _ [_])
    simp [scopedAddresses, narrowed, List.filter_filter]
  · unfold scopedHistory narrowed
    cases found : exposureHistory? inputs.history origin config with
    | none => rfl
    | some entry =>
      simp [exposureHistory?, SortedMap.get?, SortedMap.filter, List.filter_filter]

end OrderingInputs

/-! ## Noninterference -/

variable {origin : Origin} {config : OrderingConfig}

/-- The accounts found are found in the scope. -/
theorem connectedAccounts_eq_scoped (inputs : OrderingInputs) :
    connectedAccounts inputs.permitted inputs.accounts =
      gather AccountRecord.address inputs.permitted inputs.scopedRecords := by
  rw [connectedAccounts_eq_gather, OrderingInputs.scopedRecords, gather_filter_isPermitted]

theorem isPermitted_of_mem {inputs : OrderingInputs} {account : AccountRecord}
    (member : account ∈ connectedAccounts inputs.permitted inputs.accounts) :
    isPermitted inputs.permitted account.address = true :=
  (List.mem_filter.1 ((gather_perm inputs.permitted _).subset member)).2

/-- The time at which a permitted address was last shown is found in the scope. -/
theorem lastShown?_eq_scoped (inputs : OrderingInputs) {address : Address}
    (permitted : isPermitted inputs.permitted address = true) :
    (exposureHistory? inputs.history origin config).bind (fun entry => entry.lastShown? address) =
      ((inputs.scopedHistory origin config).find? fun shown =>
        addressesMatch shown.1 address).map Prod.snd := by
  unfold OrderingInputs.scopedHistory
  cases exposureHistory? inputs.history origin config with
  | none => rfl
  | some entry =>
    show entry.lastShown? address = _
    rw [PermissionHistoryEntry.lastShown?, List.find?_filter]
    congr 2
    funext shown
    by_cases same : addressesMatch shown.1 address = true
    · simp [same, (isPermitted_congr inputs.permitted same).trans permitted]
    · simp [same]

/-- Of two accounts that are permitted, inputs with one scope put the same first. -/
theorem le_sortKey_congr {i j : OrderingInputs}
    (agree : OrderingInputs.AgreeWithin origin config i j) {a b : AccountRecord}
    (permittedA : isPermitted i.permitted a.address = true)
    (permittedB : isPermitted i.permitted b.address = true) :
    (a.sortKey i.keyrings).le (b.sortKey i.keyrings) =
      (a.sortKey j.keyrings).le (b.sortKey j.keyrings) := by
  have addresses : (i.keyrings.flatMap KeyringGroup.accounts).filter (isPermitted i.permitted) =
      (j.keyrings.flatMap KeyringGroup.accounts).filter (isPermitted i.permitted) := by
    have addresses := agree.addresses
    rwa [OrderingInputs.scopedAddresses, OrderingInputs.scopedAddresses, ← agree.permitted]
      at addresses
  have closed (c d : Address) (same : addressesMatch c d = true) :=
    isPermitted_congr i.permitted same
  have places : (keyringPlace i.keyrings a.address).compare (keyringPlace i.keyrings b.address) =
      (keyringPlace j.keyrings a.address).compare (keyringPlace j.keyrings b.address) := by
    simp only [keyringPlace_eq]
    rw [← compare_placeIn_filter closed permittedA permittedB, addresses,
      compare_placeIn_filter closed permittedA permittedB]
  rw [SortKey.le, SortKey.le, SortKey.compare, SortKey.compare]
  simp only [AccountRecord.sortKey, places]

/-- Inputs with one scope stamp a permitted account with one time. -/
theorem stamped_congr {i j : OrderingInputs}
    (agree : OrderingInputs.AgreeWithin origin config i j) {account : AccountRecord}
    (permitted : isPermitted i.permitted account.address = true) :
    account.stamped (exposureHistory? i.history origin config) =
      account.stamped (exposureHistory? j.history origin config) := by
  have permitted' : isPermitted j.permitted account.address = true := agree.permitted ▸ permitted
  unfold AccountRecord.stamped
  rw [lastShown?_eq_scoped i permitted, lastShown?_eq_scoped j permitted', agree.history]

/-- **Inputs with one scope show an origin the same.** -/
theorem orderConnectedAccounts_congr {i j : OrderingInputs}
    (agree : OrderingInputs.AgreeWithin origin config i j) :
    orderConnectedAccounts i origin config = orderConnectedAccounts j origin config := by
  have connected : connectedAccounts i.permitted i.accounts =
      connectedAccounts j.permitted j.accounts := by
    rw [connectedAccounts_eq_scoped, connectedAccounts_eq_scoped, agree.permitted, agree.records]
  have sorted : sortByKey (AccountRecord.sortKey i.keyrings)
        (connectedAccounts i.permitted i.accounts) =
      sortByKey (AccountRecord.sortKey j.keyrings)
        (connectedAccounts j.permitted j.accounts) := by
    rw [← connected]
    exact sortByKey_congr fun a memberA b memberB =>
      le_sortKey_congr agree (isPermitted_of_mem memberA) (isPermitted_of_mem memberB)
  rw [orderConnectedAccounts_eq, orderConnectedAccounts_eq, ← sorted]
  refine List.map_congr_left fun account member => ?_
  exact stamped_congr agree (isPermitted_of_mem ((sortByKey_perm _ _).subset member))

/-- **What an origin sees depends on its own scope alone.**  It is the same for the inputs cut down
to that scope, and for all inputs that agree with these within it. -/
theorem orderConnectedAccounts_narrowed (inputs : OrderingInputs) (origin : Origin)
    (config : OrderingConfig) :
    orderConnectedAccounts (inputs.narrowed origin config) origin config =
        orderConnectedAccounts inputs origin config ∧
      ∀ others : OrderingInputs, OrderingInputs.AgreeWithin origin config inputs others →
        orderConnectedAccounts others origin config =
          orderConnectedAccounts inputs origin config :=
  ⟨(orderConnectedAccounts_congr (inputs.agreeWithin_narrowed origin config)).symm,
    fun _ agree => (orderConnectedAccounts_congr agree).symm⟩

/-- An account with another address, first in the map and in the keyrings, is not to be noticed. -/
theorem orderConnectedAccounts_narrowed_foreign :
    let account (id : String) (address : Address) : AccountRecord :=
      ⟨id, address, .empty, .empty, [], ""⟩
    let inputs : OrderingInputs :=
      { permitted := ["0xA"], accounts := ⟨.ofList [("1", account "1" "0xa")], ""⟩,
        keyrings := [⟨none, ["0xa"]⟩], history := .empty }
    let others : OrderingInputs :=
      { permitted := ["0xA"],
        accounts := ⟨.ofList [("2", account "2" "0xb"), ("1", account "1" "0xa")], "2"⟩,
        keyrings := [⟨some "HD Key Tree", ["0xb", "0xa"]⟩], history := .empty }
    OrderingInputs.AgreeWithin "https://remix.ethereum.org" .standard inputs others ∧
      orderConnectedAccounts others "https://remix.ethereum.org" .standard =
        orderConnectedAccounts inputs "https://remix.ethereum.org" .standard := by
  intro account inputs others
  have own : isPermitted ["0xA"] "0xa" = true := by decide
  have foreign : isPermitted ["0xA"] "0xb" = false := by decide
  have agree : OrderingInputs.AgreeWithin "https://remix.ethereum.org" .standard inputs others := by
    refine ⟨rfl, ?_, ?_, rfl⟩
    · simp [OrderingInputs.scopedRecords, IdMap.values, IdMap.ofList, IdMap.insert, IdMap.put,
        IdMap.empty, inputs, others, account, own, foreign]
    · simp [OrderingInputs.scopedAddresses, inputs, others, own, foreign]
  exact ⟨agree, (orderConnectedAccounts_narrowed inputs _ _).2 others agree⟩

end WalletView
