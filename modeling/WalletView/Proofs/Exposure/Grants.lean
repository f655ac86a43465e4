/-
# Proofs.Exposure.Grants — what a change to the allow-list changes

An allow-list that permits less shows less; what it still shows keeps its order, if the entries that
are still permitted rank as they did (`inOrder_of_fewer`).  Of the four parts of a rank only the
first mention reads the allow-list, and two changes leave it without effect:

* revoking whole classes of addresses moves the mentions behind them, but not past one another, so
  exactly the revoked records go (`orderConnectedAccounts_revoked`);
* rearranging the allow-list moves mentions anywhere, but they are asked only for entries with one
  place in the keyrings.  Where the keyrings list every permitted account, such entries have
  matching addresses and hence one mention (`orderConnectedAccounts_rearranged`).
-/
import Mathlib.Data.Set.Basic
import WalletView.Proofs.Exposure.Ordering
import WalletView.Proofs.Exposure.Keyrings

set_option autoImplicit false

namespace WalletView

/-! ## Permitting less -/

section Fewer

variable {inputs : OrderingInputs} {others : List Address}
  (fewer : ∀ address, isPermitted others address = true →
    isPermitted inputs.permitted address = true)
  (ranks : ∀ a ∈ inputs.inOrder, ∀ b ∈ inputs.inOrder,
    isPermitted others a.1.address = true → isPermitted others b.1.address = true →
    inputs.rank a < inputs.rank b →
    { inputs with permitted := others }.rank a < { inputs with permitted := others }.rank b)

include fewer ranks

/-- **An allow-list that permits less leaves the rest in order**, if it ranks the rest as before. -/
theorem inOrder_of_fewer :
    { inputs with permitted := others }.inOrder =
      inputs.inOrder.filter fun entry => isPermitted others entry.1.address := by
  symm
  apply OrderingInputs.eq_inOrder
  · refine (inputs.inOrder_perm.filter _).trans (.of_eq ?_)
    rw [List.filter_filter]
    refine List.filter_congr fun entry _ => ?_
    rw [Bool.and_eq_left_iff_imp]
    exact fewer entry.1.address
  · refine (inputs.inOrder_pairwise.filter _).imp_of_mem fun {a b} memberA memberB before => ?_
    obtain ⟨inOrderA, permittedA⟩ := List.mem_filter.1 memberA
    obtain ⟨inOrderB, permittedB⟩ := List.mem_filter.1 memberB
    exact ranks a inOrderA b inOrderB permittedA permittedB before

/-- So a site sees just those of the accounts it saw that are still permitted. -/
theorem orderConnectedAccounts_of_fewer (origin : Origin) (config : OrderingConfig) :
    orderConnectedAccounts { inputs with permitted := others } origin config =
      (orderConnectedAccounts inputs origin config).filter fun account =>
        isPermitted others account.address := by
  rw [OrderingInputs.orderConnectedAccounts_eq_map_inOrder, inOrder_of_fewer fewer ranks,
    OrderingInputs.orderConnectedAccounts_eq_map_inOrder, List.filter_map]
  simp only [Function.comp_def, address_stamped]

end Fewer

/-! ## Revoking addresses -/

section Revoke

variable {keep : Address → Bool}

/-- What is left permitted when whole classes are left out. -/
theorem isPermitted_filter (closed : ∀ a b, addressesMatch a b = true → keep a = keep b)
    (permitted : List Address) (address : Address) :
    isPermitted (permitted.filter keep) address =
      (isPermitted permitted address && keep address) := by
  induction permitted with
  | nil => rfl
  | cons p more ih =>
    by_cases same : addressesMatch p address = true
    · have kept := closed p address same
      by_cases keepP : keep p = true <;> simp [isPermitted_cons, keepP, same, ih, ← kept]
    · by_cases keepP : keep p = true <;> simp [isPermitted_cons, keepP, same, ih]

/-- Of two addresses that are kept, the one mentioned first stays so. -/
theorem mention_filter_lt_iff (closed : ∀ a b, addressesMatch a b = true → keep a = keep b)
    {a b : Address} (keepA : keep a = true) (keepB : keep b = true) (permitted : List Address) :
    mention (permitted.filter keep) a < mention (permitted.filter keep) b ↔
      mention permitted a < mention permitted b := by
  rw [mention_lt_mention_iff, mention_lt_mention_iff, compare_placeIn_filter closed keepA keepB]

/-- Entries that are kept rank as they did. -/
theorem rank_filter_lt_iff (closed : ∀ a b, addressesMatch a b = true → keep a = keep b)
    {a b : AccountRecord × Nat} (keepA : keep a.1.address = true) (keepB : keep b.1.address = true)
    (inputs : OrderingInputs) :
    { inputs with permitted := inputs.permitted.filter keep }.rank a <
        { inputs with permitted := inputs.permitted.filter keep }.rank b ↔
      inputs.rank a < inputs.rank b := by
  have before := mention_filter_lt_iff closed keepA keepB inputs.permitted
  have behind := mention_filter_lt_iff closed keepB keepA inputs.permitted
  have together : mention (inputs.permitted.filter keep) a.1.address =
        mention (inputs.permitted.filter keep) b.1.address ↔
      mention inputs.permitted a.1.address = mention inputs.permitted b.1.address := by
    omega
  rw [OrderingInputs.rank_lt_iff, OrderingInputs.rank_lt_iff, before, together]

end Revoke

/-- **Revoking addresses is exact.**  When a set of addresses, closed under matching, is taken off
the allow-list, the site sees what it saw but the accounts with an address of the set: no other
account goes, moves, is shown twice or with another time.  Read backwards it is what granting the
addresses adds. -/
theorem orderConnectedAccounts_revoked (inputs : OrderingInputs) (origin : Origin)
    (config : OrderingConfig) (revoked : Set Address) [DecidablePred (· ∈ revoked)]
    (closed : ∀ a b, addressesMatch a b = true → a ∈ revoked → b ∈ revoked) :
    orderConnectedAccounts
        { inputs with permitted := inputs.permitted.filter (· ∉ revoked) } origin config =
      (orderConnectedAccounts inputs origin config).filter (·.address ∉ revoked) := by
  have keeps (a b : Address) (same : addressesMatch a b = true) :
      decide (a ∉ revoked) = decide (b ∉ revoked) := by
    have same' : addressesMatch b a = true := addressesMatch_comm a b ▸ same
    exact decide_eq_decide.2 (not_congr ⟨closed a b same, closed b a same'⟩)
  have left (address : Address) := isPermitted_filter keeps inputs.permitted address
  have fewer (address : Address)
      (permitted : isPermitted (inputs.permitted.filter (· ∉ revoked)) address = true) :
      isPermitted inputs.permitted address = true := by
    rw [left, Bool.and_eq_true] at permitted
    exact permitted.1
  rw [orderConnectedAccounts_of_fewer fewer fun a _ b _ permittedA permittedB before => ?ranks]
  case ranks =>
    rw [left, Bool.and_eq_true] at permittedA permittedB
    exact (rank_filter_lt_iff keeps permittedA.2 permittedB.2 inputs).2 before
  refine List.filter_congr fun account member => ?_
  rw [left, isPermitted_of_mem_orderConnectedAccounts member, Bool.true_and]

/-- The account selected last is revoked under two casings; the others stay as they were. -/
theorem orderConnectedAccounts_revoked_selected :
    let account (id : String) (address : Address) (selected : Option UInt64) : AccountRecord :=
      ⟨id, address, ⟨"", selected, none, ⟨""⟩⟩, .empty, [], ""⟩
    let inputs : OrderingInputs :=
      { permitted := ["0xB", "0xc", "0xA", "0xb"],
        accounts := ⟨.ofList [("1", account "1" "0xa" none), ("2", account "2" "0xb" (some 9)),
          ("3", account "3" "0xC" none)], "2"⟩,
        keyrings := [⟨none, ["0xb"]⟩], history := .empty }
    let revoked : Set Address := { a | addressesMatch a "0xb" = true }
    (∀ a b, addressesMatch a b = true → a ∈ revoked → b ∈ revoked) ∧
      (orderConnectedAccounts inputs "peepeth.com" .standard).length = 3 ∧
      orderConnectedAccounts { inputs with permitted := ["0xc", "0xA"] } "peepeth.com" .standard =
        (orderConnectedAccounts inputs "peepeth.com" .standard).filter (·.address ∉ revoked) := by
  intro account inputs revoked
  have closed (a b : Address) (same : addressesMatch a b = true) (member : a ∈ revoked) :
      b ∈ revoked := by
    have member : addressesMatch a "0xb" = true := member
    show addressesMatch b "0xb" = true
    rw [addressesMatch_iff] at *
    exact same.symm.trans member
  have left : inputs.permitted.filter (· ∉ revoked) = ["0xc", "0xA"] := by decide
  have three := (inputs.orderConnectedAccounts_perm "peepeth.com" .standard).length_eq
  refine ⟨closed, three.trans (by decide), ?_⟩
  rw [← left]
  exact orderConnectedAccounts_revoked inputs "peepeth.com" .standard revoked closed

/-! ## Rearranging the allow-list -/

/-- Two allow-lists have the same addresses, up to their casing: each address of the one matches one
of the other. -/
structure HaveSameAddresses (permitted others : List Address) : Prop where
  left : ∀ a ∈ permitted, isPermitted others a = true
  right : ∀ a ∈ others, isPermitted permitted a = true

theorem isPermitted_of_subset {permitted others : List Address}
    (subset : ∀ a ∈ permitted, isPermitted others a = true) {address : Address}
    (isIn : isPermitted permitted address = true) : isPermitted others address = true := by
  obtain ⟨p, member, same⟩ := List.any_eq_true.1 isIn
  exact isPermitted_congr others same ▸ subset p member

/-- Accounts with one key match, if a keyring lists one of them. -/
theorem addressesMatch_of_sortKey_rank_eq {keyrings : List KeyringGroup} {a b : AccountRecord}
    (same : (a.sortKey keyrings).rank = (b.sortKey keyrings).rank)
    (isIn : IsInKeyrings keyrings a.address) : addressesMatch a.address b.address = true := by
  have places : keyringPlace keyrings a.address = keyringPlace keyrings b.address := by
    rw [SortKey.rank, SortKey.rank, toLex_inj, Prod.mk.injEq] at same
    exact KeyringPlace.rank_injective same.2
  have isListed := keyringPlace_eq_unlisted_iff.not_left.2 isIn
  exact addressesMatch_of_keyringPlace_eq places isListed

/-- Of two entries of which a keyring lists the first, each allow-list ranks the same lower. -/
theorem rank_lt_rank_of_isInKeyrings {inputs : OrderingInputs} {a b : AccountRecord × Nat}
    (isIn : IsInKeyrings inputs.keyrings a.1.address) (before : inputs.rank a < inputs.rank b)
    (others : List Address) :
    { inputs with permitted := others }.rank a < { inputs with permitted := others }.rank b := by
  rw [OrderingInputs.rank_lt_iff] at before ⊢
  rcases before with lower | ⟨sameKey, byMention⟩
  · exact .inl lower
  · have same := addressesMatch_of_sortKey_rank_eq sameKey isIn
    have mentioned := mention_congr same inputs.permitted
    rcases byMention with earlier | ⟨-, byPlace⟩
    · exact absurd earlier (mentioned ▸ Nat.lt_irrefl _)
    · exact .inr ⟨sameKey, .inr ⟨mention_congr same others, byPlace⟩⟩

/-- **The order of the allow-list does not matter for accounts that the keyrings list**, nor do its
casing and its repeats. -/
theorem orderConnectedAccounts_rearranged (inputs : OrderingInputs) (others : List Address)
    (origin : Origin) (config : OrderingConfig)
    (same : HaveSameAddresses inputs.permitted others)
    (listed : ∀ account ∈ inputs.accounts.accounts.values,
      isPermitted inputs.permitted account.address = true →
      IsInKeyrings inputs.keyrings account.address) :
    orderConnectedAccounts { inputs with permitted := others } origin config =
      orderConnectedAccounts inputs origin config := by
  have fewer (address : Address) (permitted : isPermitted others address = true) :
      isPermitted inputs.permitted address = true := isPermitted_of_subset same.right permitted
  rw [orderConnectedAccounts_of_fewer fewer fun a memberA b _ _ _ before => ?ranks,
    List.filter_eq_self]
  case ranks =>
    obtain ⟨isEntry, permitted⟩ := List.mem_filter.1 (inputs.inOrder_perm.subset memberA)
    have isAccount : a.1 ∈ inputs.accounts.accounts.values := List.fst_mem_of_mem_zipIdx isEntry
    exact rank_lt_rank_of_isInKeyrings (listed a.1 isAccount permitted) before others
  intro account member
  exact isPermitted_of_subset same.left (isPermitted_of_mem_orderConnectedAccounts member)

/-- Two allow-lists in opposite orders, one with a repeat, and two accounts with one address. -/
theorem orderConnectedAccounts_rearranged_opposite :
    let account (id : String) (address : Address) : AccountRecord :=
      ⟨id, address, .empty, .empty, [], ""⟩
    let inputs : OrderingInputs :=
      { permitted := ["0xA", "0xb"],
        accounts := ⟨.ofList [("1", account "1" "0xa"), ("2", account "2" "0xB"),
          ("3", account "3" "0xA")], ""⟩,
        keyrings := [⟨none, ["0xb"]⟩, ⟨none, ["0xA"]⟩], history := .empty }
    let others : List Address := ["0xB", "0xa", "0xb"]
    HaveSameAddresses inputs.permitted others ∧
      (∀ account ∈ inputs.accounts.accounts.values,
        isPermitted inputs.permitted account.address = true →
        IsInKeyrings inputs.keyrings account.address) ∧
      (orderConnectedAccounts inputs "peepeth.com" .standard).length = 3 ∧
      orderConnectedAccounts { inputs with permitted := others } "peepeth.com" .standard =
        orderConnectedAccounts inputs "peepeth.com" .standard := by
  intro account inputs others
  have same : HaveSameAddresses inputs.permitted others := ⟨by decide, by decide⟩
  have inKeyrings : ∀ address ∈ ["0xa", "0xB", "0xA"], IsInKeyrings inputs.keyrings address := by
    unfold IsInKeyrings
    decide
  have listed : ∀ account ∈ inputs.accounts.accounts.values,
      isPermitted inputs.permitted account.address = true →
      IsInKeyrings inputs.keyrings account.address :=
    fun account isAccount _ => inKeyrings account.address (List.mem_map_of_mem isAccount)
  have three := (inputs.orderConnectedAccounts_perm "peepeth.com" .standard).length_eq
  refine ⟨same, listed, three.trans (by decide), ?_⟩
  exact orderConnectedAccounts_rearranged inputs others "peepeth.com" .standard same listed

end WalletView
