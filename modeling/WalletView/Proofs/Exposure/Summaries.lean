/-
# Proofs.Exposure.Summaries — the summary of what sites were last shown

The summary of a history has one line for each origin: the times of the addresses that the account
capability showed it.  It is told by the origins that have such an entry and by the times in it, and
by nothing else of the history (`lastConnectedInfo_eq_iff`): an entry without addresses still makes
a line, while other capabilities and times of approval make none.

Accounts are given out with times from the same entries, though these are looked up on another way.
So whatever time an origin's copy of an account carries from the history, the summary lists it under
that origin (`lists_iff`).
-/
import WalletView.Exposure.Summaries
import WalletView.Proofs.Exposure.LastShown

set_option autoImplicit false

namespace WalletView

/-- The times at which an origin was shown addresses under the account capability, if its history
has an entry for that. -/
def exposureTimes? (history : PermissionHistory) (origin : Origin) (config : OrderingConfig) :
    Option (SortedMap UInt64) :=
  (exposureHistory? history origin config).map PermissionHistoryEntry.accounts

/-- The summary lists a time for an address under an origin, by this name or one that matches. -/
def LastConnectedInfo.Lists (info : LastConnectedInfo) (origin : Origin) (address : Address)
    (time : UInt64) : Prop :=
  ∃ connected shown, info.get? origin = some connected ∧
    (shown, time) ∈ connected.accounts.entries ∧ addressesMatch shown address = true

section Lines

variable {history : PermissionHistory} {config : OrderingConfig} {origin : Origin}

theorem get?_lastConnectedInfo (history : PermissionHistory) (config : OrderingConfig)
    (origin : Origin) :
    (lastConnectedInfo history config).get? origin =
      (exposureTimes? history origin config).map ConnectedAccounts.mk := by
  rw [lastConnectedInfo, SortedMap.get?_filterMap, exposureTimes?, exposureHistory?,
    Option.map_map]
  cases history.get? origin with
  | none => rfl
  | some capabilities => rfl

/-- An origin has a line just if its history has an entry for the account capability, and the line
is that entry's times. -/
theorem get?_lastConnectedInfo_eq_some_iff {connected : ConnectedAccounts} :
    (lastConnectedInfo history config).get? origin = some connected ↔
      ∃ capabilities entry, history.get? origin = some capabilities ∧
        capabilities.get? config.accountsCapability = some entry ∧
        connected.accounts = entry.accounts := by
  obtain ⟨accounts⟩ := connected
  rw [get?_lastConnectedInfo, exposureTimes?, exposureHistory?]
  simp only [Option.map_eq_some_iff, Option.bind_eq_some_iff, ConnectedAccounts.mk.injEq]
  constructor
  · rintro ⟨_, ⟨entry, ⟨capabilities, ofOrigin, ofCapability⟩, rfl⟩, rfl⟩
    exact ⟨capabilities, entry, ofOrigin, ofCapability, rfl⟩
  · rintro ⟨capabilities, entry, ofOrigin, ofCapability, rfl⟩
    exact ⟨_, ⟨entry, ⟨capabilities, ofOrigin, ofCapability⟩, rfl⟩, rfl⟩

/-- Two histories have one summary just if they have the same times for each origin. -/
theorem lastConnectedInfo_eq_iff {other : PermissionHistory} :
    lastConnectedInfo history config = lastConnectedInfo other config ↔
      ∀ origin, exposureTimes? history origin config = exposureTimes? other origin config := by
  have injective : Function.Injective ConnectedAccounts.mk := by
    intro a b same
    exact congrArg ConnectedAccounts.accounts same
  constructor
  · intro same origin
    apply Option.map_injective injective
    rw [← get?_lastConnectedInfo, ← get?_lastConnectedInfo, same]
  · intro same
    apply SortedMap.eq_of_get?_eq
    intro origin
    rw [get?_lastConnectedInfo, get?_lastConnectedInfo, same origin]

/-- The summary lists what the history does. -/
theorem lists_iff {address : Address} {time : UInt64} :
    (lastConnectedInfo history config).Lists origin address time ↔
      IsListed history origin config address time := by
  constructor
  · rintro ⟨connected, shown, line, member, same⟩
    obtain ⟨capabilities, entry, ofOrigin, ofCapability, times⟩ :=
      get?_lastConnectedInfo_eq_some_iff.1 line
    exact ⟨capabilities, entry, shown, ofOrigin, ofCapability, times ▸ member, same⟩
  · rintro ⟨capabilities, entry, shown, ofOrigin, ofCapability, member, same⟩
    have line : (lastConnectedInfo history config).get? origin = some ⟨entry.accounts⟩ :=
      get?_lastConnectedInfo_eq_some_iff.2 ⟨capabilities, entry, ofOrigin, ofCapability, rfl⟩
    exact ⟨⟨entry.accounts⟩, shown, line, member, same⟩

end Lines

/-- An account is stamped with a time that the summary lists for its address, or it is given out as
it is stored and no time is listed for it. -/
theorem stamped_listed (history : PermissionHistory) (origin : Origin) (config : OrderingConfig)
    (stored : AccountRecord) :
    let copy := stored.stamped (exposureHistory? history origin config)
    let info := lastConnectedInfo history config
    (∃ time, info.Lists origin stored.address time ∧
      copy = { stored with metadata := { stored.metadata with lastActive := some time } }) ∨
      copy = stored ∧ ∀ time, ¬info.Lists origin stored.address time := by
  intro copy info
  have exposed : IsExposedAs history origin config stored copy := isExposedAs_iff.2 rfl
  by_cases listed : ∃ time, IsListed history origin config stored.address time
  · obtain ⟨time, isListed⟩ := listed
    obtain ⟨first, isLast⟩ := isListed.exists_isLastShown
    refine .inl ⟨first, lists_iff.2 isLast.isListed, ?_⟩
    rw [exposed.others, exposed.shown first isLast]
  · have notShown (time : UInt64) : ¬IsLastShown history origin config stored.address time :=
      fun isLast => listed ⟨time, isLast.isListed⟩
    refine .inr ⟨?_, fun time isListed => listed ⟨time, lists_iff.1 isListed⟩⟩
    rw [exposed.others, exposed.notShown notShown]

/-- **The summary is the history of the account capability.**  An origin has a line just if its
history has an entry for the capability, with the times of that entry and no others; two histories
have one summary just if for each origin they agree on whether there is such an entry and on its
times; and every time that an account shown to an origin carries from the history is one that the
summary lists for its address under that origin, while an account it lists nothing for is shown as
it is stored. -/
theorem lastConnectedInfo_surfaces (history : PermissionHistory) (config : OrderingConfig) :
    let info := lastConnectedInfo history config
    (∀ origin connected, info.get? origin = some connected ↔
      ∃ capabilities entry, history.get? origin = some capabilities ∧
        capabilities.get? config.accountsCapability = some entry ∧
        connected.accounts = entry.accounts) ∧
      (∀ other, info = lastConnectedInfo other config ↔
        ∀ origin, exposureTimes? history origin config = exposureTimes? other origin config) ∧
      ∀ permitted accounts keyrings origin,
        ∀ copy ∈ orderConnectedAccounts ⟨permitted, accounts, keyrings, history⟩ origin config,
          ∃ stored ∈ accounts.accounts.values,
            (∃ time, info.Lists origin stored.address time ∧
              copy = { stored with metadata := { stored.metadata with lastActive := some time } }) ∨
              copy = stored ∧ ∀ time, ¬info.Lists origin stored.address time := by
  intro info
  refine ⟨fun origin connected => get?_lastConnectedInfo_eq_some_iff,
    fun other => lastConnectedInfo_eq_iff, ?_⟩
  intro permitted accounts keyrings origin copy member
  let inputs : OrderingInputs := ⟨permitted, accounts, keyrings, history⟩
  have perm := inputs.orderConnectedAccounts_perm origin config
  obtain ⟨stored, isPermitted, rfl⟩ := List.mem_map.1 (perm.subset member)
  have isStored : stored ∈ accounts.accounts.values := (List.mem_filter.1 isPermitted).1
  exact ⟨stored, isStored, stamped_listed history origin config stored⟩

/-- An entry without addresses makes a line, and another capability does not. -/
example :
    let entry (times : List (String × UInt64)) : PermissionHistoryEntry := ⟨.ofList times, none⟩
    let history : PermissionHistory := .ofList
      [("a", .ofList [("eth_accounts", entry [])]), ("b", .ofList [("mint", entry [("0x1", 1)])])]
    (lastConnectedInfo history .standard).entries = [("a", ⟨.empty⟩)] := by
  decide +kernel

end WalletView
