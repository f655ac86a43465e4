/-
# Proofs.Wallet.Sharing — snapshots that share allocations

An allocation has one content for as long as anything refers to it, so two snapshots that hold one
allocation in one place have one slice there.  They *agree*, and that is all of their sharing that a
memory relies on.  Snapshots agree in whatever way they came about: shared from plain ones, or made
from others by replacing slices and by taking them over (`Session.agree`).
-/
import WalletView.Wallet.Slice
import WalletView.Proofs.Memo.Shared

set_option autoImplicit false

namespace WalletView

/-- What a slice consists of. -/
abbrev Slice.Content : Slice → Type
  | pendingApprovals => IdMap PendingApproval
  | unapprovedPersonalMsgs => SortedMap (Shared SignableMessage)
  | unapprovedTypedMessages => SortedMap (Shared SignableMessage)
  | transactions => List (Shared TransactionRecord)
  | providerConfig => ProviderConfig
  | preferences => Preferences
  | featureFlags => FeatureFlags
  | subjects => IdMap Subject
  | subjectMetadata => IdMap SubjectMetadata
  | permissionHistory => PermissionHistory
  | internalAccounts => InternalAccounts
  | keyrings => List KeyringGroup
  | activeTab => ActiveTab
  | bridge => BridgeState

namespace Snapshot

/-- A slice of a snapshot, in its allocation. -/
def held (s : Snapshot Shared) : (slice : Slice) → Shared slice.Content
  | .pendingApprovals => s.pendingApprovals
  | .unapprovedPersonalMsgs => s.unapprovedPersonalMsgs
  | .unapprovedTypedMessages => s.unapprovedTypedMessages
  | .transactions => s.transactions
  | .providerConfig => s.providerConfig
  | .preferences => s.preferences
  | .featureFlags => s.featureFlags
  | .subjects => s.subjects
  | .subjectMetadata => s.subjectMetadata
  | .permissionHistory => s.permissionHistory
  | .internalAccounts => s.internalAccounts
  | .keyrings => s.keyrings
  | .activeTab => s.activeTab
  | .bridge => s.bridge

/-- Slices that are one allocation are one slice. -/
def Agrees (s t : Snapshot Shared) : Prop :=
  ∀ slice, (s.held slice).sameAs (t.held slice) = true → s.held slice = t.held slice

theorem Agrees.refl (s : Snapshot Shared) : s.Agrees s :=
  fun _ _ => rfl

theorem Agrees.symm {s t : Snapshot Shared} (agrees : s.Agrees t) : t.Agrees s := by
  intro slice same
  rw [Shared.sameAs_iff] at same
  exact (agrees slice (Shared.sameAs_iff.2 same.symm)).symm

/-! ## Making snapshots -/

/-- All slices of a snapshot that was just shared are new allocations. -/
theorem share_ends (s : Snapshot Plain) (supply : Supply) :
    s.share.Ends supply fun shared after =>
      ∀ slice,
        supply.next ≤ (shared.held slice).token ∧ (shared.held slice).token < after.next := by
  intro slice
  cases slice <;>
    simp only [share, Allocating.bind_apply, Allocating.pure_apply, allocate, allocateMessages,
      allocateTransactions, allocateAll, held] <;>
    omega

/-- Of a snapshot with one slice replaced, that slice is a new allocation and all others are what
they were. -/
theorem replace_ends {s : Snapshot Shared} {slice : Slice} {text : String}
    {make : Allocating (Snapshot Shared)} (replaced : s.replace slice text = .ok make)
    (supply : Supply) :
    make.Ends supply fun t after =>
      supply.next ≤ (t.held slice).token ∧ (t.held slice).token < after.next ∧
        ∀ place, place ≠ slice → t.held place = s.held place := by
  cases slice
  all_goals
    obtain ⟨content, -, rfl⟩ := Json.map_eq_ok.1 replaced
    refine ⟨?_, Nat.lt_succ_self _, fun place other => ?_⟩
    · first
      | exact Nat.le_refl _
      | exact Nat.le_add_right _ _
    · cases place <;> first | rfl | exact absurd rfl other

theorem held_adopt (s other : Snapshot Shared) (slice place : Slice) :
    (s.adopt slice other).held place = (if place = slice then other else s).held place := by
  cases slice <;> cases place <;> rfl

/-! ## Sessions -/

/-- The snapshots of a session, the last made first: each is a plain one that was shared, or one of
those before with a slice replaced, or with a slice taken over from another of them.  Meanwhile
other allocations may be made. -/
inductive Session : List (Snapshot Shared) → Supply → Prop
  | start (supply : Supply) : Session [] supply
  | allocate {snapshots : List (Snapshot Shared)} {supply after : Supply}
      (session : Session snapshots supply) (grows : supply.next ≤ after.next) :
      Session snapshots after
  | share {snapshots : List (Snapshot Shared)} {supply : Supply}
      (session : Session snapshots supply) (s : Snapshot Plain) :
      Session ((s.share supply).1 :: snapshots) (s.share supply).2
  | replace {snapshots : List (Snapshot Shared)} {supply : Supply} {s : Snapshot Shared}
      {slice : Slice} {text : String} {make : Allocating (Snapshot Shared)}
      (session : Session snapshots supply) (member : s ∈ snapshots)
      (replaced : s.replace slice text = .ok make) :
      Session ((make supply).1 :: snapshots) (make supply).2
  | adopt {snapshots : List (Snapshot Shared)} {supply : Supply} {s other : Snapshot Shared}
      (session : Session snapshots supply) (member : s ∈ snapshots)
      (memberOther : other ∈ snapshots) (slice : Slice) :
      Session (s.adopt slice other :: snapshots) supply

namespace Session

/-- All slices are allocated, and any two snapshots agree on those that they share. -/
structure Invariant (snapshots : List (Snapshot Shared)) (supply : Supply) : Prop where
  allocated : ∀ s ∈ snapshots, ∀ slice, (s.held slice).token < supply.next
  agree : ∀ s ∈ snapshots, ∀ t ∈ snapshots, s.Agrees t

variable {snapshots : List (Snapshot Shared)} {supply after : Supply}

/-- A snapshot of which every slice is a new allocation, or that of a snapshot made before. -/
theorem Invariant.cons (invariant : Invariant snapshots supply) (grows : supply.next ≤ after.next)
    {t : Snapshot Shared}
    (origin : ∀ slice, supply.next ≤ (t.held slice).token ∧ (t.held slice).token < after.next ∨
      ∃ s ∈ snapshots, t.held slice = s.held slice) : Invariant (t :: snapshots) after := by
  have agrees : ∀ u ∈ snapshots, t.Agrees u := by
    intro u memberU slice same
    rcases origin slice with ⟨isNew, -⟩ | ⟨s, memberS, isOld⟩
    · have below := invariant.allocated u memberU slice
      have token := Shared.sameAs_iff.1 same
      omega
    · rw [isOld] at same ⊢
      exact invariant.agree s memberS u memberU slice same
  constructor
  · intro u memberU slice
    rcases List.mem_cons.1 memberU with rfl | olderU
    · rcases origin slice with ⟨-, allocated⟩ | ⟨s, memberS, isOld⟩
      · exact allocated
      · rw [isOld]
        exact Nat.lt_of_lt_of_le (invariant.allocated s memberS slice) grows
    · exact Nat.lt_of_lt_of_le (invariant.allocated u olderU slice) grows
  · intro u memberU v memberV
    rcases List.mem_cons.1 memberU with rfl | olderU <;>
      rcases List.mem_cons.1 memberV with rfl | olderV
    · exact .refl _
    · exact agrees v olderV
    · exact (agrees u olderU).symm
    · exact invariant.agree u olderU v olderV

theorem invariant (session : Session snapshots supply) : Invariant snapshots supply := by
  induction session with
  | start supply => exact ⟨by simp, by simp⟩
  | allocate session grows ih =>
    exact ⟨fun s member slice => Nat.lt_of_lt_of_le (ih.allocated s member slice) grows, ih.agree⟩
  | share session s ih =>
    rename_i snapshots supply
    have isNew := share_ends s supply
    have grows := Nat.le_of_lt (Nat.lt_of_le_of_lt (isNew .bridge).1 (isNew .bridge).2)
    exact ih.cons grows fun slice => .inl (isNew slice)
  | replace session member replaced ih =>
    rename_i snapshots supply s slice text make
    obtain ⟨isNew, allocated, kept⟩ := replace_ends replaced supply
    refine ih.cons (Nat.le_of_lt (Nat.lt_of_le_of_lt isNew allocated)) fun place => ?_
    by_cases isReplaced : place = slice
    · subst isReplaced
      exact .inl ⟨isNew, allocated⟩
    · exact .inr ⟨s, member, kept place isReplaced⟩
  | adopt session member memberOther slice ih =>
    refine ih.cons (Nat.le_refl _) fun place => .inr ?_
    rw [held_adopt]
    by_cases adopted : place = slice
    · exact ⟨_, memberOther, by rw [if_pos adopted]⟩
    · exact ⟨_, member, by rw [if_neg adopted]⟩

/-- **The snapshots of a session agree**, however they share their slices. -/
theorem agree (session : Session snapshots supply) :
    ∀ s ∈ snapshots, ∀ t ∈ snapshots, s.Agrees t :=
  session.invariant.agree

end Session

end Snapshot

end WalletView
