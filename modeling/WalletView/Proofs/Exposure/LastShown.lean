/-
# Proofs.Exposure.LastShown — how recent the time on a copy is

An account is given out with a time from the history of the site that is asking.  The history keeps
times under names, and since names that differ in casing are one address, it can have several times
for the account.  The copy carries the one under the first of these names, in the order of names.

So the time on a copy is always one of those listed for its address (`isListed_lastActive`), but the
first name need not have the latest of them.  It is the latest exactly if no other name of the
address has a later one (`isUpToDate_iff`), and so wherever the history writes each address in one
way only (`NamesOnce.firstIsLatest`).  The last theorem is about a history that does not.
-/
import WalletView.Proofs.Exposure.Ordering

set_option autoImplicit false

namespace WalletView

/-! ## The times that a history lists -/

/-- The history of an origin lists a time for an address, under this name or one that matches. -/
def IsListed (history : PermissionHistory) (origin : Origin) (config : OrderingConfig)
    (address : Address) (time : UInt64) : Prop :=
  ∃ capabilities entry shown, history.get? origin = some capabilities ∧
    capabilities.get? config.accountsCapability = some entry ∧
    (shown, time) ∈ entry.accounts.entries ∧ addressesMatch shown address = true

/-- Of the times that the history of an origin lists for an address, the one under the first name is
the latest. -/
def FirstIsLatest (history : PermissionHistory) (origin : Origin) (config : OrderingConfig)
    (address : Address) : Prop :=
  ∀ first, IsLastShown history origin config address first →
    ∀ time, IsListed history origin config address time → time ≤ first

/-- The history of an origin has no address under two names. -/
def NamesOnce (history : PermissionHistory) (origin : Origin) (config : OrderingConfig) : Prop :=
  ∀ capabilities entry, history.get? origin = some capabilities →
    capabilities.get? config.accountsCapability = some entry →
    ∀ a ∈ entry.accounts.entries, ∀ b ∈ entry.accounts.entries,
      addressesMatch a.1 b.1 = true → a.1 = b.1

/-- A copy is at least as recent as every time that the history of an origin lists for its
address. -/
def AccountRecord.IsUpToDate (history : PermissionHistory) (origin : Origin)
    (config : OrderingConfig) (copy : AccountRecord) : Prop :=
  ∀ time, IsListed history origin config copy.address time →
    ∃ last, copy.metadata.lastActive = some last ∧ time ≤ last

section Times

variable {history : PermissionHistory} {origin : Origin} {config : OrderingConfig}
  {address : Address} {first time : UInt64}

/-- The time under the first name is listed. -/
theorem IsLastShown.isListed (isLast : IsLastShown history origin config address first) :
    IsListed history origin config address first := by
  obtain ⟨capabilities, entry, shown, ofOrigin, ofCapability, member, same, -⟩ := isLast
  exact ⟨capabilities, entry, shown, ofOrigin, ofCapability, member, same⟩

/-- Of names that match an address, one is the first. -/
theorem IsListed.exists_isLastShown (isListed : IsListed history origin config address time) :
    ∃ first, IsLastShown history origin config address first := by
  obtain ⟨capabilities, entry, shown, ofOrigin, ofCapability, member, same⟩ := isListed
  have found : (entry.accounts.entries.find? fun e => addressesMatch e.1 address).isSome = true :=
    List.find?_isSome.2 ⟨_, member, same⟩
  obtain ⟨⟨name, first⟩, find⟩ := Option.isSome_iff_exists.1 found
  have isFirst := (entry.accounts.find?_eq_some_iff (addressesMatch · address)).1 find
  exact ⟨first, capabilities, entry, name, ofOrigin, ofCapability, isFirst⟩

/-- Where an address has one name, it has one time. -/
theorem NamesOnce.firstIsLatest (once : NamesOnce history origin config) (address : Address) :
    FirstIsLatest history origin config address := by
  rintro first ⟨capabilities, entry, shown, ofOrigin, ofCapability, member, same, -⟩ time
    ⟨capabilities', entry', shown', ofOrigin', ofCapability', member', same'⟩
  obtain rfl : capabilities = capabilities' :=
    Option.some.inj (ofOrigin.symm.trans ofOrigin')
  obtain rfl : entry = entry' := Option.some.inj (ofCapability.symm.trans ofCapability')
  have oneAddress : addressesMatch shown' shown = true := by
    rw [addressesMatch_iff] at same same' ⊢
    exact same'.trans same.symm
  have oneName : shown' = shown := once capabilities entry ofOrigin ofCapability _ member' _ member
    oneAddress
  obtain ⟨-, rfl⟩ := Prod.mk.inj (SortedMap.eq_of_name_eq member' member oneName)
  exact UInt64.le_refl _

end Times

/-! ## The time on a copy -/

section Copies

variable {inputs : OrderingInputs} {origin : Origin} {config : OrderingConfig}
  {copy : AccountRecord}

/-- Every record that is permitted is shown, stamped. -/
theorem mem_orderConnectedAccounts_of_mem {stored : AccountRecord}
    (member : stored ∈ inputs.accounts.accounts.values)
    (permitted : isPermitted inputs.permitted stored.address = true) :
    stored.stamped (exposureHistory? inputs.history origin config) ∈
      orderConnectedAccounts inputs origin config := by
  refine (inputs.orderConnectedAccounts_perm origin config).symm.subset ?_
  exact List.mem_map.2 ⟨stored, List.mem_filter.2 ⟨member, permitted⟩, rfl⟩

/-- A copy carries the time under the first name of its address. -/
theorem lastActive_eq (member : copy ∈ orderConnectedAccounts inputs origin config)
    {first : UInt64} (isLast : IsLastShown inputs.history origin config copy.address first) :
    copy.metadata.lastActive = some first := by
  have perm := inputs.orderConnectedAccounts_perm origin config
  obtain ⟨stored, -, rfl⟩ := List.mem_map.1 (perm.subset member)
  rw [address_stamped] at isLast
  exact (isExposedAs_iff.2 rfl).shown first isLast

/-- A copy whose address is listed carries one of its times. -/
theorem isListed_lastActive (member : copy ∈ orderConnectedAccounts inputs origin config)
    {time : UInt64} (isListed : IsListed inputs.history origin config copy.address time) :
    ∃ last, copy.metadata.lastActive = some last ∧
      IsListed inputs.history origin config copy.address last := by
  obtain ⟨first, isLast⟩ := isListed.exists_isLastShown
  exact ⟨first, lastActive_eq member isLast, isLast.isListed⟩

/-- A copy is up to date just if the first name of its address has the latest time. -/
theorem isUpToDate_iff (member : copy ∈ orderConnectedAccounts inputs origin config) :
    copy.IsUpToDate inputs.history origin config ↔
      FirstIsLatest inputs.history origin config copy.address := by
  constructor
  · intro upToDate first isLast time isListed
    obtain ⟨last, carried, notLater⟩ := upToDate time isListed
    have same : some last = some first := carried.symm.trans (lastActive_eq member isLast)
    exact Option.some.inj same ▸ notLater
  · intro latest time isListed
    obtain ⟨first, isLast⟩ := isListed.exists_isLastShown
    exact ⟨first, lastActive_eq member isLast, latest first isLast time isListed⟩

end Copies

/-- **How recent the time on a copy is.**  Every account shown to an origin whose address the
origin's history lists carries one of the times listed for it, under whatever casing; this is at
least as recent as all of them exactly if none is later than the one under the first name.  So all
accounts shown are up to date where the history has no address under two names. -/
theorem orderConnectedAccounts_lastActive (inputs : OrderingInputs) (origin : Origin)
    (config : OrderingConfig) :
    let shown := orderConnectedAccounts inputs origin config
    (∀ copy ∈ shown,
      (∀ time, IsListed inputs.history origin config copy.address time →
        ∃ last, copy.metadata.lastActive = some last ∧
          IsListed inputs.history origin config copy.address last) ∧
      (copy.IsUpToDate inputs.history origin config ↔
        FirstIsLatest inputs.history origin config copy.address)) ∧
      (NamesOnce inputs.history origin config →
        ∀ copy ∈ shown, copy.IsUpToDate inputs.history origin config) := by
  intro shown
  refine ⟨fun copy member => ⟨fun time isListed => ?_, isUpToDate_iff member⟩,
    fun once copy member => ?_⟩
  · exact isListed_lastActive member isListed
  · exact (isUpToDate_iff member).2 (once.firstIsLatest copy.address)

/-- The account is listed under two names, and the first of them has the later time. -/
theorem orderConnectedAccounts_lastActive_first :
    let history : PermissionHistory :=
      .ofList [("https://o", .ofList [("eth_accounts", ⟨.ofList [("0xA", 10), ("0xa", 5)], none⟩)])]
    let account : AccountRecord := ⟨"1", "0xa", .empty, .empty, [], ""⟩
    let inputs : OrderingInputs :=
      { permitted := ["0xa"], accounts := ⟨.ofList [("1", account)], "1"⟩, keyrings := [], history }
    ∃ copy ∈ orderConnectedAccounts inputs "https://o" .standard,
      copy.metadata.lastActive = some 10 ∧ IsListed history "https://o" .standard copy.address 5 ∧
        copy.IsUpToDate history "https://o" .standard := by
  intro history account inputs
  have member : account.stamped (exposureHistory? history "https://o" .standard) ∈
      orderConnectedAccounts inputs "https://o" .standard :=
    mem_orderConnectedAccounts_of_mem List.mem_cons_self (by decide)
  have isLast : IsLastShown history "https://o" .standard "0xa" 10 :=
    isLastShown_iff.2 (by decide +kernel)
  have earlier : IsListed history "https://o" .standard "0xa" 5 :=
    ⟨_, _, "0xa", rfl, rfl, by decide +kernel, by decide⟩
  have latest : FirstIsLatest history "https://o" .standard "0xa" := by
    rintro first isFirst time ⟨capabilities, entry, shown, ofOrigin, ofCapability, listed, -⟩
    cases ofOrigin
    cases ofCapability
    have entries : (SortedMap.ofList [("0xA", (10 : UInt64)), ("0xa", 5)]).entries =
        [("0xA", 10), ("0xa", 5)] := by decide +kernel
    have isEither : (shown, time) ∈ [("0xA", (10 : UInt64)), ("0xa", 5)] := entries ▸ listed
    have sameFirst : some first = some 10 :=
      (isLastShown_iff.1 isFirst).symm.trans (isLastShown_iff.1 isLast)
    cases sameFirst
    rcases List.mem_pair.1 isEither with isTen | isFive
    · exact UInt64.le_of_eq (Prod.mk.inj isTen).2
    · rw [(Prod.mk.inj isFive).2]
      decide
  refine ⟨_, member, (isExposedAs_iff.2 rfl).shown 10 isLast, ?_, ?_⟩
  · rw [address_stamped]
    exact earlier
  · refine ((orderConnectedAccounts_lastActive inputs "https://o" .standard).1 _ member).2.2 ?_
    rw [address_stamped]
    exact latest

/-- **The time on a copy can be an earlier one.**  The account is listed under two names, and the
second of them has the later time. -/
theorem lastActive_stale :
    let history : PermissionHistory :=
      .ofList [("https://o", .ofList [("eth_accounts", ⟨.ofList [("0xA", 5), ("0xa", 10)], none⟩)])]
    let account : AccountRecord := ⟨"1", "0xa", .empty, .empty, [], ""⟩
    let inputs : OrderingInputs :=
      { permitted := ["0xa"], accounts := ⟨.ofList [("1", account)], "1"⟩, keyrings := [], history }
    ∃ copy ∈ orderConnectedAccounts inputs "https://o" .standard,
      copy.metadata.lastActive = some 5 ∧ IsListed history "https://o" .standard copy.address 10 ∧
        ¬copy.IsUpToDate history "https://o" .standard := by
  intro history account inputs
  have member : account.stamped (exposureHistory? history "https://o" .standard) ∈
      orderConnectedAccounts inputs "https://o" .standard :=
    mem_orderConnectedAccounts_of_mem List.mem_cons_self (by decide)
  have isLast : IsLastShown history "https://o" .standard "0xa" 5 :=
    isLastShown_iff.2 (by decide +kernel)
  have later : IsListed history "https://o" .standard "0xa" 10 :=
    ⟨_, _, "0xa", rfl, rfl, by decide +kernel, by decide⟩
  refine ⟨_, member, (isExposedAs_iff.2 rfl).shown 5 isLast, ?_, fun upToDate => ?_⟩
  · rw [address_stamped]
    exact later
  · have latest := (isUpToDate_iff member).1 upToDate
    rw [address_stamped] at latest
    exact absurd (latest 5 isLast 10 later) (by decide)

end WalletView
