/-
# Proofs.Exposure.Checks — which checks the accounts shown can fail

The checks find anew what the ordering did: they count the records that are permitted, compare the
keys of neighbours, and count ids by sorting them and dropping equal neighbours.  What a site is
shown is a rearrangement of the permitted records with one field changed, so it passes the first two
checks always and the third unless two permitted records share an id: the account map keeps its keys
distinct, not the ids of its records.
-/
import Mathlib.Data.List.Nodup
import WalletView.Exposure.Checks
import WalletView.Proofs.Exposure.Ordering

set_option autoImplicit false

namespace WalletView

/-! ## Counting by dropping neighbours -/

/-- Dropping equal neighbours leaves no more than there was: what is in `kept` already, the `text`
seen last, and what follows. -/
theorem length_eraseRepsLoop_le (text : String) (more kept : List String) :
    (List.eraseRepsBy.loop (· == ·) text more kept).length ≤ kept.length + more.length + 1 := by
  induction more generalizing text kept with
  | nil => simp [List.eraseRepsBy.loop]
  | cons next more ih =>
    rw [List.eraseRepsBy.loop]
    split
    · have le := ih text kept
      rw [List.length_cons]
      omega
    · have le := ih next (text :: kept)
      rw [List.length_cons] at *
      omega

/-- Of texts in order none is dropped when no two are equal. -/
theorem length_eraseRepsLoop_eq_iff (text : String) (more kept : List String)
    (sorted : (text :: more).Pairwise (· ≤ ·)) :
    (List.eraseRepsBy.loop (· == ·) text more kept).length = kept.length + more.length + 1 ↔
      (text :: more).Nodup := by
  induction more generalizing text kept with
  | nil => simp [List.eraseRepsBy.loop]
  | cons next more ih =>
    obtain ⟨before, sortedMore⟩ := List.pairwise_cons.1 sorted
    rw [List.eraseRepsBy.loop]
    by_cases same : text = next
    · subst same
      have dropped := length_eraseRepsLoop_le text more kept
      simp only [beq_self_eq_true, List.length_cons]
      refine iff_of_false (by omega) fun nodup => ?_
      exact (List.nodup_cons.1 nodup).1 List.mem_cons_self
    · have isOther : (text == next) = false := beq_eq_false_iff_ne.2 same
      -- All that follows is at least `next`, so an equal of `text` there would make the two equal.
      have fresh : text ∉ next :: more := by
        intro member
        have le : next ≤ text := by
          rcases List.mem_cons.1 member with isNext | inMore
          · exact absurd isNext same
          · exact (List.pairwise_cons.1 sortedMore).1 text inMore
        exact same (Std.le_antisymm (before next List.mem_cons_self) le)
      have counted := ih next (text :: kept) sortedMore
      rw [List.length_cons, Nat.add_right_comm] at counted
      rw [isOther, List.nodup_cons, List.length_cons, ← counted]
      simp only [fresh, not_false_eq_true, true_and]
      omega

/-- **There are as many different texts as texts when no two are equal.** -/
theorem countDistinct_eq_length_iff (texts : List String) :
    countDistinct texts = texts.length ↔ texts.Nodup := by
  have perm := List.mergeSort_perm texts fun a b => decide (a ≤ b)
  have sorted : (texts.mergeSort fun a b => decide (a ≤ b)).Pairwise (· ≤ ·) := by
    have trans (a b c : String) (ab : decide (a ≤ b) = true) (bc : decide (b ≤ c) = true) :
        decide (a ≤ c) = true :=
      decide_eq_true (Std.le_trans (of_decide_eq_true ab) (of_decide_eq_true bc))
    have total (a b : String) : (decide (a ≤ b) || decide (b ≤ a)) = true := by
      rw [Bool.or_eq_true, decide_eq_true_iff, decide_eq_true_iff]
      exact Std.le_total
    have inOrder := List.pairwise_mergeSort trans total texts
    exact inOrder.imp fun le => of_decide_eq_true le
  rw [← perm.nodup_iff, ← perm.length_eq, countDistinct]
  cases arranged : texts.mergeSort fun a b => decide (a ≤ b) with
  | nil => simp [List.eraseReps, List.eraseRepsBy]
  | cons text more =>
    rw [arranged] at sorted
    have counted := length_eraseRepsLoop_eq_iff text more [] sorted
    simpa [List.eraseReps, List.eraseRepsBy] using counted

/-! ## The checks -/

/-- Comparing neighbours compares all, since the order of keys is transitive. -/
theorem areInOrder_iff (keyrings : List KeyringGroup) (ordered : List AccountRecord) :
    areInOrder keyrings ordered = true ↔
      ordered.Pairwise fun a b => (a.sortKey keyrings).le (b.sortKey keyrings) = true := by
  induction ordered with
  | nil => simp [areInOrder]
  | cons a more ih =>
    cases more with
    | nil => simp [areInOrder]
    | cons b more =>
      rw [areInOrder, Bool.and_eq_true, ih, List.pairwise_cons (a := a)]
      constructor
      · rintro ⟨first, inOrder⟩
        refine ⟨fun c member => ?_, inOrder⟩
        rcases List.mem_cons.1 member with rfl | later
        · exact first
        · exact SortKey.le_trans _ _ _ first ((List.pairwise_cons.1 inOrder).1 c later)
      · rintro ⟨first, inOrder⟩
        exact ⟨first b List.mem_cons_self, inOrder⟩

namespace OrderingInputs

variable (inputs : OrderingInputs) (origin : Origin) (config : OrderingConfig)

/-- Two entries of the account map, under different keys and both permitted, have records with one
id. -/
def ShareId : Prop :=
  ∃ a ∈ inputs.accounts.accounts.entries, ∃ b ∈ inputs.accounts.accounts.entries,
    a.1 ≠ b.1 ∧ isPermitted inputs.permitted a.2.address = true ∧
      isPermitted inputs.permitted b.2.address = true ∧ a.2.id = b.2.id

theorem areScoped_shown :
    areScoped (orderConnectedAccounts inputs origin config) inputs.permitted = true := by
  rw [areScoped, List.all_eq_true]
  exact fun account member => isPermitted_of_mem_orderConnectedAccounts member

theorem areInOrder_shown :
    areInOrder inputs.keyrings (orderConnectedAccounts inputs origin config) = true := by
  rw [areInOrder_iff]
  exact pairwise_le_sortByKey _ _

/-- The ids shown are those of the permitted entries of the map. -/
theorem map_id_shown_perm :
    ((orderConnectedAccounts inputs origin config).map AccountRecord.id).Perm
      ((inputs.accounts.accounts.entries.filter fun entry =>
        isPermitted inputs.permitted entry.2.address).map fun entry => entry.2.id) := by
  refine ((inputs.orderConnectedAccounts_perm origin config).map _).trans (.of_eq ?_)
  rw [IdMap.values, List.filter_map, List.map_map, List.map_map]
  refine List.map_congr_left fun entry _ => ?_
  exact id_stamped _ entry.2

/-- The ids shown differ, unless permitted entries share one. -/
theorem nodup_map_id_shown_iff :
    ((orderConnectedAccounts inputs origin config).map AccountRecord.id).Nodup ↔
      ¬inputs.ShareId := by
  have nodup : (inputs.accounts.accounts.entries.filter fun entry =>
      isPermitted inputs.permitted entry.2.address).Nodup :=
    (List.Nodup.of_map _ inputs.accounts.accounts.nodup).filter _
  rw [(inputs.map_id_shown_perm origin config).nodup_iff, List.nodup_map_iff_inj_on nodup]
  constructor
  · rintro differ ⟨a, memberA, b, memberB, keys, permittedA, permittedB, same⟩
    have equal := differ a (List.mem_filter.2 ⟨memberA, permittedA⟩) b
      (List.mem_filter.2 ⟨memberB, permittedB⟩) same
    exact keys (congrArg Prod.fst equal)
  · intro unshared a memberA b memberB same
    obtain ⟨memberA, permittedA⟩ := List.mem_filter.1 memberA
    obtain ⟨memberB, permittedB⟩ := List.mem_filter.1 memberB
    by_cases keys : a.1 = b.1
    · exact List.inj_on_of_nodup_map inputs.accounts.accounts.nodup memberA memberB keys
    · exact absurd ⟨a, memberA, b, memberB, keys, permittedA, permittedB, same⟩ unshared

/-- There is one entry for each record, unless permitted entries share an id. -/
theorem haveOneEntryPerRecord_shown_iff :
    haveOneEntryPerRecord (orderConnectedAccounts inputs origin config) inputs.permitted
        inputs.accounts = true ↔ ¬inputs.ShareId := by
  have counted := (inputs.orderConnectedAccounts_perm origin config).length_eq
  rw [List.length_map] at counted
  have distinct := countDistinct_eq_length_iff
    ((orderConnectedAccounts inputs origin config).map AccountRecord.id)
  rw [List.length_map] at distinct
  rw [haveOneEntryPerRecord, Bool.and_eq_true, beq_iff_eq, beq_iff_eq, distinct,
    nodup_map_id_shown_iff]
  exact and_iff_right counted

end OrderingInputs

/-- **Which checks the accounts shown to a site can fail.**  They are always on the allow-list and
always in order, and there is one for each record unless two permitted entries of the account map
share an id.  So the only check that ever fails is the last, and it fails on just those inputs. -/
theorem checks_orderConnectedAccounts (inputs : OrderingInputs) (origin : Origin)
    (config : OrderingConfig) :
    let shown := orderConnectedAccounts inputs origin config
    areScoped shown inputs.permitted = true ∧
      areInOrder inputs.keyrings shown = true ∧
      (haveOneEntryPerRecord shown inputs.permitted inputs.accounts = true ↔ ¬inputs.ShareId) ∧
      ∀ check, inputs.failedCheck? shown = some check ↔
        check = .oneEntryPerRecord ∧ inputs.ShareId := by
  intro shown
  have onList : areScoped shown inputs.permitted = true := inputs.areScoped_shown origin config
  have inOrder : areInOrder inputs.keyrings shown = true := inputs.areInOrder_shown origin config
  have oneEach : haveOneEntryPerRecord shown inputs.permitted inputs.accounts = true ↔
      ¬inputs.ShareId := inputs.haveOneEntryPerRecord_shown_iff origin config
  refine ⟨onList, inOrder, oneEach, fun check => ?_⟩
  unfold OrderingInputs.failedCheck?
  by_cases shared : inputs.ShareId
  · have fails : haveOneEntryPerRecord shown inputs.permitted inputs.accounts = false := by
      rw [← Bool.not_eq_true, oneEach, not_not]
      exact shared
    simp [onList, inOrder, fails, shared, eq_comm]
  · simp [onList, inOrder, oneEach.2 shared, shared]

/-- One account under two keys. -/
example :
    let account : AccountRecord := ⟨"1", "0xa", .empty, .empty, [], ""⟩
    OrderingInputs.ShareId
      { permitted := ["0xA"], accounts := ⟨.ofList [("1", account), ("2", account)], "1"⟩,
        keyrings := [⟨none, ["0xa"]⟩], history := .empty } := by
  unfold OrderingInputs.ShareId
  decide

end WalletView
