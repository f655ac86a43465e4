/-
# Proofs.Exposure.Place — where an address stands in a list

The place of an address is that of the first address in the list that matches it, and it is nowhere
when none does (`placeIn_eq_listed_iff`, `placeIn_eq_unlisted_iff`).  So a place stands for a class
of matching addresses: those with one place match, unless that place is nowhere
(`addressesMatch_of_placeIn_eq`).  Leaving whole classes out moves every place behind them, but of
two addresses that are kept the one that came first still does (`compare_placeIn_filter`).
-/
import WalletView.Proofs.Exposure.AllowList

set_option autoImplicit false

namespace WalletView

/-! ## Places one further on -/

/-- The place one further on. -/
def KeyringPlace.next : KeyringPlace → KeyringPlace
  | listed before => listed (before + 1)
  | unlisted => unlisted

theorem KeyringPlace.compare_next (p q : KeyringPlace) : p.next.compare q.next = p.compare q := by
  cases p with
  | listed m =>
    cases q with
    | listed n =>
      show Ord.compare (m + 1) (n + 1) = Ord.compare m n
      rw [Nat.compare_eq_ite_lt, Nat.compare_eq_ite_lt]
      simp only [Nat.add_lt_add_iff_right]
    | unlisted => rfl
  | unlisted => cases q <;> rfl

theorem KeyringPlace.compare_first_next (p : KeyringPlace) : (listed 0).compare p.next = .lt := by
  cases p with
  | listed n => exact Std.compare_eq_lt.2 (Nat.succ_pos n)
  | unlisted => rfl

theorem KeyringPlace.compare_next_first (p : KeyringPlace) : p.next.compare (listed 0) = .gt := by
  cases p with
  | listed n => exact Std.compare_eq_gt.2 (Nat.succ_pos n)
  | unlisted => rfl

/-! ## Places in a list -/

/-- The place of an address in a list of addresses. -/
def placeIn (listed : List Address) (address : Address) : KeyringPlace :=
  match listed.findIdx? (addressesMatch · address) with
  | some before => .listed before
  | none => .unlisted

theorem keyringPlace_eq (keyrings : List KeyringGroup) (address : Address) :
    keyringPlace keyrings address = placeIn (keyrings.flatMap KeyringGroup.accounts) address :=
  rfl

theorem placeIn_cons (first : Address) (listed : List Address) (address : Address) :
    placeIn (first :: listed) address =
      if addressesMatch first address = true then .listed 0 else (placeIn listed address).next := by
  unfold placeIn
  by_cases same : addressesMatch first address = true
  · simp [List.findIdx?_cons, same]
  · rw [if_neg same, List.findIdx?_cons, if_neg same]
    cases listed.findIdx? (addressesMatch · address) <;> rfl

/-- An address is nowhere when the list has none that matches. -/
theorem placeIn_eq_unlisted_iff {listed : List Address} {address : Address} :
    placeIn listed address = .unlisted ↔ ¬∃ a ∈ listed, addressesMatch a address = true := by
  unfold placeIn
  cases found : listed.findIdx? (addressesMatch · address) with
  | none => simpa using List.findIdx?_eq_none_iff.1 found
  | some before =>
    obtain ⟨bound, matched, -⟩ := List.findIdx?_eq_some_iff_getElem.1 found
    simp only [reduceCtorEq, false_iff, not_not]
    exact ⟨_, List.getElem_mem bound, matched⟩

/-- Before the first address of a list that matches stand as many others as told. -/
def IsFirstMatch (listed : List Address) (address : Address) (before : Nat) : Prop :=
  ∃ front first back, listed = front ++ first :: back ∧ front.length = before ∧
    addressesMatch first address = true ∧ ∀ a ∈ front, addressesMatch a address = false

/-- **The place of an address is that of its first match.**  Induction on the list, which has one
address more in front of the match for each one passed over. -/
theorem placeIn_eq_listed_iff {listed : List Address} {address : Address} {before : Nat} :
    placeIn listed address = .listed before ↔ IsFirstMatch listed address before := by
  constructor
  · intro place
    induction listed generalizing before with
    | nil => cases place
    | cons a more ih =>
      rw [placeIn_cons] at place
      by_cases matched : addressesMatch a address = true
      · rw [if_pos matched] at place
        cases place
        exact ⟨[], a, more, rfl, rfl, matched, by simp⟩
      · rw [if_neg matched] at place
        cases further : placeIn more address with
        | unlisted => rw [further] at place; cases place
        | listed between =>
          rw [further] at place
          cases place
          obtain ⟨front, first, back, rfl, rfl, isMatch, others⟩ := ih further
          refine ⟨a :: front, first, back, rfl, rfl, isMatch, ?_⟩
          intro b member
          rcases List.mem_cons.1 member with rfl | inFront
          · simpa using matched
          · exact others b inFront
  · rintro ⟨front, first, back, rfl, rfl, matched, others⟩
    induction front with
    | nil =>
      rw [List.nil_append, placeIn_cons, if_pos matched]
      rfl
    | cons a front ih =>
      have unmatched : ¬addressesMatch a address = true := by simp [others a]
      have further := ih fun b member => others b (List.mem_cons_of_mem a member)
      rw [List.cons_append, placeIn_cons, if_neg unmatched, further]
      rfl

theorem placeIn_congr {a b : Address} (same : addressesMatch a b = true) (listed : List Address) :
    placeIn listed a = placeIn listed b := by
  unfold placeIn
  simp only [addressesMatch_congr same]

/-- **Addresses with one place match**, unless that place is nowhere. -/
theorem addressesMatch_of_placeIn_eq {listed : List Address} {a b : Address}
    (same : placeIn listed a = placeIn listed b) (isListed : placeIn listed a ≠ .unlisted) :
    addressesMatch a b = true := by
  cases place : placeIn listed a with
  | unlisted => exact absurd place isListed
  | listed before =>
    obtain ⟨front, first, back, split, length, matchedA, -⟩ := placeIn_eq_listed_iff.1 place
    obtain ⟨front', first', back', split', length', matchedB, -⟩ :=
      placeIn_eq_listed_iff.1 (same ▸ place)
    have parts := List.append_inj (split.symm.trans split') (length.trans length'.symm)
    obtain rfl := (List.cons.inj parts.2).1
    rw [addressesMatch_iff] at *
    exact matchedA.symm.trans matchedB

/-! ## Leaving classes out -/

section Keep

variable {keep : Address → Bool} {a b : Address}

/-- **Of two addresses that are kept, the one listed first stays so when whole classes of others are
left out.** -/
theorem compare_placeIn_filter
    (closed : ∀ c d, addressesMatch c d = true → keep c = keep d)
    (keepA : keep a = true) (keepB : keep b = true) (listed : List Address) :
    (placeIn (listed.filter keep) a).compare (placeIn (listed.filter keep) b) =
      (placeIn listed a).compare (placeIn listed b) := by
  induction listed with
  | nil => rfl
  | cons first more ih =>
    by_cases kept : keep first = true
    · rw [List.filter_cons_of_pos kept]
      simp only [placeIn_cons]
      by_cases isA : addressesMatch first a = true
      · by_cases isB : addressesMatch first b = true
        · simp only [if_pos isA, if_pos isB]
        · simp only [if_pos isA, if_neg isB, KeyringPlace.compare_first_next]
      · by_cases isB : addressesMatch first b = true
        · simp only [if_neg isA, if_pos isB, KeyringPlace.compare_next_first]
        · simp only [if_neg isA, if_neg isB, KeyringPlace.compare_next, ih]
    · have notA : ¬addressesMatch first a = true := fun same =>
        kept ((closed first a same).trans keepA)
      have notB : ¬addressesMatch first b = true := fun same =>
        kept ((closed first b same).trans keepB)
      rw [List.filter_cons_of_neg kept, placeIn_cons, placeIn_cons, if_neg notA, if_neg notB,
        KeyringPlace.compare_next, ih]

end Keep

/-! ## Mentions -/

theorem mention_cons (first : Address) (permitted : List Address) (address : Address) :
    mention (first :: permitted) address =
      if addressesMatch first address = true then 0 else mention permitted address + 1 := by
  simp [mention, List.findIdx_cons, Bool.cond_eq_ite]

/-- Matching addresses are first mentioned together. -/
theorem mention_congr {a b : Address} (same : addressesMatch a b = true)
    (permitted : List Address) : mention permitted a = mention permitted b := by
  simp only [mention, addressesMatch_congr same]

/-- An address is mentioned before another when its place is before the other's. -/
theorem mention_lt_mention_iff (permitted : List Address) (a b : Address) :
    mention permitted a < mention permitted b ↔
      (placeIn permitted a).compare (placeIn permitted b) = .lt := by
  induction permitted with
  | nil => simp [mention, placeIn, KeyringPlace.compare]
  | cons first more ih =>
    simp only [mention_cons, placeIn_cons]
    by_cases isA : addressesMatch first a = true
    · by_cases isB : addressesMatch first b = true
      · simp [isA, isB, KeyringPlace.compare]
      · simp [isA, isB, KeyringPlace.compare_first_next]
    · by_cases isB : addressesMatch first b = true
      · simp [isA, isB, KeyringPlace.compare_next_first]
      · simp [isA, isB, KeyringPlace.compare_next, ih]

end WalletView
