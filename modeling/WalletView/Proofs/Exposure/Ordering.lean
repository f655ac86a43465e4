/-
# Proofs.Exposure.Ordering — the accounts a site sees, in full

Of the entries of the account map, those that the allow-list permits are shown, each once, in
ascending order of their *rank*: the time of selection, the place in the keyrings, the first
mention on the allow-list, the place in the map.  No two entries have one rank, so this is one
order.  Each is shown as its record with at most one field changed, the time at which it was last
active, for which the site's history of exposure counts (`IsExposedAs`).
-/
import WalletView.Proofs.Exposure.AllowList
import WalletView.Proofs.Exposure.SortKey
import WalletView.Proofs.Map.Sorted

set_option autoImplicit false

namespace WalletView

/-! ## Records as they are shown -/

/-- The history of an origin has a time for an address: it stands under the first address, in the
order of names, that matches. -/
def IsLastShown (history : PermissionHistory) (origin : Origin) (config : OrderingConfig)
    (address : Address) (time : UInt64) : Prop :=
  ∃ capabilities entry shown, history.get? origin = some capabilities ∧
    capabilities.get? config.accountsCapability = some entry ∧
    (shown, time) ∈ entry.accounts.entries ∧ addressesMatch shown address = true ∧
    ∀ other ∈ entry.accounts.entries, addressesMatch other.1 address = true → shown ≤ other.1

theorem isLastShown_iff {history : PermissionHistory} {origin : Origin} {config : OrderingConfig}
    {address : Address} {time : UInt64} :
    IsLastShown history origin config address time ↔
      (exposureHistory? history origin config).bind (fun entry => entry.lastShown? address) =
        some time := by
  simp only [exposureHistory?, Option.bind_eq_some_iff, PermissionHistoryEntry.lastShown?,
    Option.map_eq_some_iff, Prod.exists, exists_eq_right]
  constructor
  · rintro ⟨capabilities, entry, shown, ofOrigin, ofCapability, first⟩
    have find := (entry.accounts.find?_eq_some_iff (addressesMatch · address)).2 first
    exact ⟨entry, ⟨capabilities, ofOrigin, ofCapability⟩, shown, find⟩
  · rintro ⟨entry, ⟨capabilities, ofOrigin, ofCapability⟩, shown, find⟩
    have first := (entry.accounts.find?_eq_some_iff (addressesMatch · address)).1 find
    exact ⟨capabilities, entry, shown, ofOrigin, ofCapability, first⟩

/-- A copy of a stored record that an origin may see: the time at which it was last active is that
of the origin's history, if there is one, and nothing else differs. -/
structure IsExposedAs (history : PermissionHistory) (origin : Origin) (config : OrderingConfig)
    (stored copy : AccountRecord) : Prop where
  others : copy =
    { stored with metadata := { stored.metadata with lastActive := copy.metadata.lastActive } }
  shown : ∀ time, IsLastShown history origin config stored.address time →
    copy.metadata.lastActive = some time
  notShown : (∀ time, ¬IsLastShown history origin config stored.address time) →
    copy.metadata.lastActive = stored.metadata.lastActive

theorem isExposedAs_iff {history : PermissionHistory} {origin : Origin} {config : OrderingConfig}
    {stored copy : AccountRecord} :
    IsExposedAs history origin config stored copy ↔
      copy = stored.stamped (exposureHistory? history origin config) := by
  unfold AccountRecord.stamped
  cases found : (exposureHistory? history origin config).bind
      (fun entry => entry.lastShown? stored.address) with
  | none =>
    have notShown (time : UInt64) : ¬IsLastShown history origin config stored.address time := by
      rw [isLastShown_iff, found]
      exact nofun
    constructor
    · intro exposed
      rw [exposed.others, exposed.notShown notShown]
    · rintro rfl
      exact ⟨rfl, fun time shown => absurd shown (notShown time), fun _ => rfl⟩
  | some time =>
    have shown : IsLastShown history origin config stored.address time := isLastShown_iff.2 found
    constructor
    · intro exposed
      rw [exposed.others, exposed.shown time shown]
    · rintro rfl
      refine ⟨rfl, fun time' shown' => ?_, fun notShown => absurd shown (notShown time)⟩
      exact found.symm.trans (isLastShown_iff.1 shown')

@[simp] theorem address_stamped (history : Option PermissionHistoryEntry)
    (account : AccountRecord) : (account.stamped history).address = account.address := by
  unfold AccountRecord.stamped
  split <;> rfl

@[simp] theorem id_stamped (history : Option PermissionHistoryEntry) (account : AccountRecord) :
    (account.stamped history).id = account.id := by
  unfold AccountRecord.stamped
  split <;> rfl

theorem sortKey_stamped (keyrings : List KeyringGroup) (history : Option PermissionHistoryEntry)
    (account : AccountRecord) :
    (account.stamped history).sortKey keyrings = account.sortKey keyrings := by
  unfold AccountRecord.stamped
  split <;> rfl

/-- Stamping changes no key, so accounts may as well be sorted first. -/
theorem orderConnectedAccounts_eq (inputs : OrderingInputs) (origin : Origin)
    (config : OrderingConfig) :
    orderConnectedAccounts inputs origin config =
      (sortByKey (AccountRecord.sortKey inputs.keyrings)
        (connectedAccounts inputs.permitted inputs.accounts)).map
        (AccountRecord.stamped (exposureHistory? inputs.history origin config)) := by
  refine (map_sortByKey fun a _ b _ => ?_).symm
  rw [sortKey_stamped, sortKey_stamped]

/-! ## Entries in their order -/

namespace OrderingInputs

variable (inputs : OrderingInputs)

/-- Where an entry of the account map ranks, lexicographically: by the time of selection, the place
in the keyrings, the first mention on the allow-list and the place in the map. -/
def rank (entry : AccountRecord × Nat) : WithTop ℕᵒᵈ ×ₗ WithTop ℕ ×ₗ ℕ ×ₗ ℕ :=
  toLex (recencyRank entry.1.metadata.lastSelected,
    toLex ((keyringPlace inputs.keyrings entry.1.address).rank,
      toLex (mention inputs.permitted entry.1.address, entry.2)))

theorem rank_lt_iff (a b : AccountRecord × Nat) :
    inputs.rank a < inputs.rank b ↔
      (a.1.sortKey inputs.keyrings).rank < (b.1.sortKey inputs.keyrings).rank ∨
        (a.1.sortKey inputs.keyrings).rank = (b.1.sortKey inputs.keyrings).rank ∧
          (mention inputs.permitted a.1.address < mention inputs.permitted b.1.address ∨
            mention inputs.permitted a.1.address = mention inputs.permitted b.1.address ∧
              a.2 < b.2) := by
  simp only [rank, SortKey.rank, AccountRecord.sortKey, Prod.Lex.toLex_lt_toLex, toLex_inj,
    Prod.mk.injEq]
  tauto

/-- The entries of the account map that are permitted, each with its place, in order. -/
def inOrder : List (AccountRecord × Nat) :=
  sortByKey (fun entry => entry.1.sortKey inputs.keyrings)
    (gather (fun entry => entry.1.address) inputs.permitted inputs.accounts.accounts.values.zipIdx)

theorem inOrder_perm :
    inputs.inOrder.Perm (inputs.accounts.accounts.values.zipIdx.filter fun entry =>
      isPermitted inputs.permitted entry.1.address) :=
  (sortByKey_perm _ _).trans (gather_perm _ _)

theorem inOrder_pairwise :
    inputs.inOrder.Pairwise fun a b => inputs.rank a < inputs.rank b := by
  have places := pairwise_snd_zipIdx inputs.accounts.accounts.values
  refine (sortByKey_pairwise (gather_pairwise inputs.permitted places)).imp fun {a b} related => ?_
  exact (inputs.rank_lt_iff a b).2 related

/-- Without their places, the entries in order are the connected accounts, sorted. -/
theorem map_fst_inOrder :
    inputs.inOrder.map Prod.fst =
      sortByKey (AccountRecord.sortKey inputs.keyrings)
        (connectedAccounts inputs.permitted inputs.accounts) := by
  have values : inputs.accounts.accounts.values.zipIdx.map Prod.fst =
      inputs.accounts.accounts.values := List.zipIdx_map_fst _ _
  rw [connectedAccounts_eq_gather, ← values, ← map_gather]
  exact map_sortByKey fun _ _ _ _ => rfl

/-- No other arrangement of the permitted entries is in order. -/
theorem eq_inOrder {entries : List (AccountRecord × Nat)}
    (perm : entries.Perm (inputs.accounts.accounts.values.zipIdx.filter fun entry =>
      isPermitted inputs.permitted entry.1.address))
    (ascending : entries.Pairwise fun a b => inputs.rank a < inputs.rank b) :
    entries = inputs.inOrder := by
  have asymm (a b : AccountRecord × Nat) (ab : inputs.rank a < inputs.rank b)
      (ba : inputs.rank b < inputs.rank a) : a = b := absurd ba (lt_asymm ab)
  exact List.Perm.eq_of_pairwise (fun a b _ _ => asymm a b) ascending inputs.inOrder_pairwise
    (perm.trans inputs.inOrder_perm.symm)

/-- What a site sees is each entry in order, stamped. -/
theorem orderConnectedAccounts_eq_map_inOrder (origin : Origin) (config : OrderingConfig) :
    orderConnectedAccounts inputs origin config =
      inputs.inOrder.map fun entry =>
        entry.1.stamped (exposureHistory? inputs.history origin config) := by
  rw [orderConnectedAccounts_eq, ← inputs.map_fst_inOrder, List.map_map]
  rfl

/-- What a site sees are the records that its allow-list permits, stamped. -/
theorem orderConnectedAccounts_perm (origin : Origin) (config : OrderingConfig) :
    (orderConnectedAccounts inputs origin config).Perm
      ((inputs.accounts.accounts.values.filter fun account =>
        isPermitted inputs.permitted account.address).map
        (AccountRecord.stamped (exposureHistory? inputs.history origin config))) := by
  rw [orderConnectedAccounts_eq, connectedAccounts_eq_gather]
  exact ((sortByKey_perm _ _).trans (gather_perm _ _)).map _

end OrderingInputs

/-- A site sees no address that it is not permitted. -/
theorem isPermitted_of_mem_orderConnectedAccounts {inputs : OrderingInputs} {origin : Origin}
    {config : OrderingConfig} {account : AccountRecord}
    (member : account ∈ orderConnectedAccounts inputs origin config) :
    isPermitted inputs.permitted account.address = true := by
  have perm := inputs.orderConnectedAccounts_perm origin config
  obtain ⟨stored, isStored, rfl⟩ := List.mem_map.1 (perm.subset member)
  rw [address_stamped]
  exact (List.mem_filter.1 isStored).2

end WalletView
