/-
# Proofs.Exposure.AllowList — matching sorts addresses into classes

That two addresses match is an equivalence, though not equality.  So an allow-list without its
repeats names each class once, and gathering what has the address of each name, one name after
another, takes every item that the allow-list permits exactly once (`gather_perm`), in the order
in which the list first mentions their classes (`gather_pairwise`).
-/
import Mathlib.Data.List.Basic
import WalletView.Exposure.Ordering

set_option autoImplicit false

namespace WalletView

/-! ## Matching addresses -/

theorem addressesMatch_iff {a b : Address} :
    addressesMatch a b = true ↔ Text.fold a = Text.fold b :=
  Text.matchesAnyCase_iff

theorem addressesMatch_comm (a b : Address) : addressesMatch a b = addressesMatch b a := by
  rw [Bool.eq_iff_iff, addressesMatch_iff, addressesMatch_iff]
  exact eq_comm

/-- Addresses that match are matched by the same addresses. -/
theorem addressesMatch_congr {a b : Address} (same : addressesMatch a b = true) (c : Address) :
    addressesMatch c a = addressesMatch c b := by
  rw [addressesMatch_iff] at same
  rw [Bool.eq_iff_iff, addressesMatch_iff, addressesMatch_iff, same]

theorem isPermitted_cons (p : Address) (permitted : List Address) (a : Address) :
    isPermitted (p :: permitted) a = (addressesMatch p a || isPermitted permitted a) :=
  rfl

/-- Whether an address is permitted depends on its class alone. -/
theorem isPermitted_congr {a b : Address} (permitted : List Address)
    (same : addressesMatch a b = true) : isPermitted permitted a = isPermitted permitted b := by
  induction permitted with
  | nil => rfl
  | cons p more ih => rw [isPermitted_cons, isPermitted_cons, addressesMatch_congr same, ih]

/-! ## Gathering what an allow-list names -/

section Gather

variable {α β : Type} {address : α → Address}

/-- The items that have an address on an allow-list, in the order in which it names them. -/
def gather (address : α → Address) (permitted : List Address) (items : List α) : List α :=
  (withoutRepeats permitted).flatMap fun named =>
    items.filter fun item => addressesMatch (address item) named

theorem connectedAccounts_eq_gather (permitted : List Address) (accounts : InternalAccounts) :
    connectedAccounts permitted accounts =
      gather AccountRecord.address permitted accounts.accounts.values :=
  rfl

theorem map_gather (f : α → β) (address : β → Address) (permitted : List Address)
    (items : List α) :
    (gather (address ∘ f) permitted items).map f = gather address permitted (items.map f) := by
  simp only [gather, List.map_flatMap, List.filter_map, Function.comp_def]

/-- Once the items of the first name are gathered, the others are gathered from the rest. -/
theorem gather_cons (p : Address) (permitted : List Address) (items : List α) :
    gather address (p :: permitted) items =
      items.filter (fun item => addressesMatch (address item) p) ++
        gather address permitted (items.filter fun item => !addressesMatch (address item) p) := by
  simp only [gather, withoutRepeats, List.flatMap_cons, List.append_cancel_left_eq]
  generalize withoutRepeats permitted = names
  induction names with
  | nil => rfl
  | cons named more ih =>
    have rest : (items.filter fun item => !addressesMatch (address item) p).filter
          (fun item => addressesMatch (address item) named) =
        if addressesMatch p named = true then []
        else items.filter fun item => addressesMatch (address item) named := by
      rw [List.filter_filter]
      split
      · rename_i same
        simp [addressesMatch_congr same]
      · rename_i different
        refine List.filter_congr fun item _ => ?_
        rw [Bool.and_eq_left_iff_imp]
        intro matched
        rw [addressesMatch_iff] at matched
        rw [Bool.not_eq_true', ← Bool.not_eq_true, addressesMatch_iff, matched]
        rw [addressesMatch_iff] at different
        exact Ne.symm different
    rw [List.flatMap_cons, rest, ← ih, List.filter_cons]
    by_cases same : addressesMatch p named = true
    · simp [same]
    · simp [same]

/-- Of the permitted items, those of the first name are just those of the name. -/
theorem filter_first (p : Address) (permitted : List Address) (items : List α) :
    (items.filter fun item => isPermitted (p :: permitted) (address item)).filter
        (fun item => addressesMatch (address item) p) =
      items.filter fun item => addressesMatch (address item) p := by
  rw [List.filter_filter]
  refine List.filter_congr fun item _ => ?_
  rw [isPermitted_cons, addressesMatch_comm p]
  cases addressesMatch (address item) p <;> rfl

/-- Of the permitted items, those of no first name are those that the other names permit. -/
theorem filter_not_first (p : Address) (permitted : List Address) (items : List α) :
    (items.filter fun item => isPermitted (p :: permitted) (address item)).filter
        (fun item => !addressesMatch (address item) p) =
      (items.filter fun item => !addressesMatch (address item) p).filter
        fun item => isPermitted permitted (address item) := by
  rw [List.filter_filter, List.filter_filter]
  refine List.filter_congr fun item _ => ?_
  rw [isPermitted_cons, addressesMatch_comm p]
  cases addressesMatch (address item) p <;> simp

/-- **Every permitted item is gathered, once.** -/
theorem gather_perm (permitted : List Address) (items : List α) :
    (gather address permitted items).Perm
      (items.filter fun item => isPermitted permitted (address item)) := by
  induction permitted generalizing items with
  | nil => simp [gather, withoutRepeats, isPermitted]
  | cons p more ih =>
    have parts := List.filter_append_perm (fun item => addressesMatch (address item) p)
      (items.filter fun item => isPermitted (p :: more) (address item))
    rw [filter_first, filter_not_first] at parts
    rw [gather_cons]
    exact ((ih _).append_left _).trans parts

/-- Items that are not permitted do not matter. -/
theorem gather_filter_isPermitted (permitted : List Address) (items : List α) :
    gather address permitted (items.filter fun item => isPermitted permitted (address item)) =
      gather address permitted items := by
  induction permitted generalizing items with
  | nil => rfl
  | cons p more ih => rw [gather_cons, gather_cons, filter_first, filter_not_first, ih]

/-- How many addresses an allow-list has before the first that matches. -/
def mention (permitted : List Address) (address : Address) : Nat :=
  permitted.findIdx (addressesMatch · address)

/-- **Items are gathered by the first mention of their address**, and among those of one mention in
their own order. -/
theorem gather_pairwise {R : α → α → Prop} (permitted : List Address) {items : List α}
    (ordered : items.Pairwise R) :
    (gather address permitted items).Pairwise fun a b =>
      mention permitted (address a) < mention permitted (address b) ∨
        mention permitted (address a) = mention permitted (address b) ∧ R a b := by
  induction permitted generalizing items with
  | nil => exact .nil
  | cons p more ih =>
    have first {item : α} (matched : addressesMatch (address item) p = true) :
        mention (p :: more) (address item) = 0 := by
      simp [mention, List.findIdx_cons, addressesMatch_comm p, matched]
    have later {item : α} (unmatched : addressesMatch (address item) p = false) :
        mention (p :: more) (address item) = mention more (address item) + 1 := by
      simp [mention, List.findIdx_cons, addressesMatch_comm p, unmatched]
    have unmatched_of_mem {item : α} (member : item ∈ gather address more
        (items.filter fun item => !addressesMatch (address item) p)) :
        addressesMatch (address item) p = false := by
      have inRest := (List.mem_filter.1 ((gather_perm more _).subset member)).1
      simpa using (List.mem_filter.1 inRest).2
    rw [gather_cons, List.pairwise_append]
    refine ⟨?_, ?_, ?_⟩
    · refine (ordered.filter _).imp_of_mem fun {a b} memberA memberB related => ?_
      have matchedA := (List.mem_filter.1 memberA).2
      have matchedB := (List.mem_filter.1 memberB).2
      exact .inr ⟨(first matchedA).trans (first matchedB).symm, related⟩
    · refine (ih (ordered.filter _)).imp_of_mem fun {a b} memberA memberB related => ?_
      rw [later (unmatched_of_mem memberA), later (unmatched_of_mem memberB)]
      rcases related with before | ⟨same, related⟩
      · exact .inl (Nat.succ_lt_succ before)
      · exact .inr ⟨congrArg Nat.succ same, related⟩
    · intro a memberA b memberB
      rw [first (List.mem_filter.1 memberA).2, later (unmatched_of_mem memberB)]
      exact .inl (Nat.succ_pos _)

end Gather

end WalletView
