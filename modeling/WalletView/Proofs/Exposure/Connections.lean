/-
# Proofs.Exposure.Connections — whether a site may see an account, asked from both ends

The sites connected to an account are found by going through the subjects; the accounts a site
sees by going through its allow-list and the account map.  Both come down to one condition: the
site's allow-list permits the account's address (`mem_connectedSubjects_iff` for the one,
`mem_orderConnectedAccounts_iff` for the other).
-/
import WalletView.Exposure.Summaries
import WalletView.Proofs.Exposure.Ordering
import WalletView.Proofs.Map.Id

set_option autoImplicit false

namespace WalletView

/-! ## The sites that may see an address -/

section Sites

variable {subjects : IdMap Subject} {metadata : IdMap SubjectMetadata} {address : Address}
  {config : OrderingConfig}

/-- The origins listed are those of the subjects whose allow-list permits the address. -/
theorem map_origin_connectedSubjects (subjects : IdMap Subject) (metadata : IdMap SubjectMetadata)
    (address : Address) (config : OrderingConfig) :
    (connectedSubjects subjects metadata address config).map ConnectedSubject.origin =
      (subjects.entries.filter fun entry =>
        isPermitted (entry.2.permittedAccounts config) address).map Prod.fst := by
  rw [connectedSubjects, List.map_map]
  rfl

/-- **The sites listed are those whose allow-list permits the address.**  A site that is no subject
has an empty allow-list. -/
theorem mem_connectedSubjects_iff {origin : Origin} :
    origin ∈ (connectedSubjects subjects metadata address config).map ConnectedSubject.origin ↔
      isPermitted (permittedAccounts subjects origin config) address = true := by
  rw [map_origin_connectedSubjects, List.mem_map]
  constructor
  · rintro ⟨⟨origin, subject⟩, listed, rfl⟩
    obtain ⟨member, permitted⟩ := List.mem_filter.1 listed
    rw [permittedAccounts, IdMap.get?_eq_some_iff.2 member]
    exact permitted
  · intro permitted
    rw [permittedAccounts] at permitted
    cases found : subjects.get? origin with
    | none => rw [found] at permitted; cases permitted
    | some subject =>
      rw [found] at permitted
      exact ⟨_, List.mem_filter.2 ⟨IdMap.get?_eq_some_iff.1 found, permitted⟩, rfl⟩

/-- The sites are listed in the order of the subjects. -/
theorem connectedSubjects_sublist (subjects : IdMap Subject) (metadata : IdMap SubjectMetadata)
    (address : Address) (config : OrderingConfig) :
    ((connectedSubjects subjects metadata address config).map ConnectedSubject.origin).Sublist
      (subjects.entries.map Prod.fst) := by
  rw [map_origin_connectedSubjects]
  exact List.filter_sublist.map Prod.fst

/-- Each site is listed as its own metadata show it. -/
theorem metadata_of_mem_connectedSubjects {site : ConnectedSubject}
    (member : site ∈ connectedSubjects subjects metadata address config) :
    site.metadata = (metadata.get? site.origin).getD ⟨none, none, none⟩ := by
  obtain ⟨entry, -, rfl⟩ := List.mem_map.1 member
  rfl

end Sites

/-! ## The accounts that a site sees -/

/-- One record in every field but the time at which it was last active. -/
def AccountRecord.EqualButLastActive (a b : AccountRecord) : Prop :=
  a = { b with metadata := { b.metadata with lastActive := a.metadata.lastActive } }

namespace AccountRecord.EqualButLastActive

theorem address_eq {a b : AccountRecord} (equal : a.EqualButLastActive b) :
    a.address = b.address := by
  rw [show a = _ from equal]

theorem symm {a b : AccountRecord} (equal : a.EqualButLastActive b) : b.EqualButLastActive a := by
  unfold AccountRecord.EqualButLastActive
  rw [show a = _ from equal]

theorem trans {a b c : AccountRecord} (equal : a.EqualButLastActive b)
    (equal' : b.EqualButLastActive c) : a.EqualButLastActive c := by
  unfold AccountRecord.EqualButLastActive at *
  rw [equal, equal']

theorem stamped (history : Option PermissionHistoryEntry) (account : AccountRecord) :
    (account.stamped history).EqualButLastActive account := by
  unfold AccountRecord.stamped
  split <;> rfl

end AccountRecord.EqualButLastActive

/-- **An account of the map is shown when the allow-list permits its address**, whatever becomes of
its place and of the time at which it was last active. -/
theorem mem_orderConnectedAccounts_iff {inputs : OrderingInputs} {origin : Origin}
    {config : OrderingConfig} {account : AccountRecord}
    (isAccount : account ∈ inputs.accounts.accounts.values) :
    (∃ shown ∈ orderConnectedAccounts inputs origin config, shown.EqualButLastActive account) ↔
      isPermitted inputs.permitted account.address = true := by
  have perm := inputs.orderConnectedAccounts_perm origin config
  constructor
  · rintro ⟨shown, member, equal⟩
    exact equal.address_eq ▸ isPermitted_of_mem_orderConnectedAccounts member
  · intro permitted
    refine ⟨_, perm.mem_iff.2 (List.mem_map_of_mem ?_), .stamped _ account⟩
    exact List.mem_filter.2 ⟨isAccount, permitted⟩

end WalletView
