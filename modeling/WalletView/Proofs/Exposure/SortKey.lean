/-
# Proofs.Exposure.SortKey — keys in a linear order, and a sort that is stable

A key has a *rank* in a lexicographic order: later times before earlier ones and before none, then
the place in the keyrings with nowhere last.  Comparing keys is comparing their ranks, so the order
of keys is linear.  Sorting by keys leaves what has one key as it was: `sortByKey_pairwise`.
-/
import Mathlib.Data.List.Forall2
import Mathlib.Data.Prod.Lex
import Mathlib.Order.WithBot
import WalletView.Exposure.SortKey

set_option autoImplicit false

namespace WalletView

/-! ## Ranks -/

/-- Where a time of selection ranks: later times first, and never last. -/
def recencyRank : Option UInt64 → WithTop ℕᵒᵈ
  | some time => WithTop.some (OrderDual.toDual time.toNat)
  | none => ⊤

/-- Where a place in the keyrings ranks: by its position, and nowhere last. -/
def KeyringPlace.rank : KeyringPlace → WithTop ℕ
  | listed before => WithTop.some before
  | unlisted => ⊤

theorem KeyringPlace.compare_isLE_iff (p q : KeyringPlace) :
    (p.compare q).isLE = true ↔ p.rank ≤ q.rank := by
  cases p with
  | listed m =>
    cases q with
    | listed n =>
      rw [rank, rank, WithTop.coe_le_coe]
      exact Std.LawfulOrderOrd.isLE_compare m n
    | unlisted => simp [compare, rank]
  | unlisted => cases q <;> simp [compare, rank]

namespace SortKey

theorem compareRecency_eq_lt_iff (s t : Option UInt64) :
    compareRecency s t = .lt ↔ recencyRank s < recencyRank t := by
  cases s with
  | some s =>
    cases t with
    | some t =>
      rw [recencyRank, recencyRank, WithTop.coe_lt_coe, OrderDual.toDual_lt_toDual,
        ← UInt64.lt_iff_toNat_lt]
      exact Std.compare_eq_lt
    | none => simp [compareRecency, recencyRank]
  | none => cases t <;> simp [compareRecency, recencyRank]

theorem compareRecency_eq_eq_iff (s t : Option UInt64) :
    compareRecency s t = .eq ↔ recencyRank s = recencyRank t := by
  cases s with
  | some s =>
    cases t with
    | some t =>
      rw [recencyRank, recencyRank, WithTop.coe_inj, OrderDual.toDual_inj, UInt64.toNat_inj,
        eq_comm (a := s)]
      exact Std.LawfulEqOrd.compare_eq_iff_eq
    | none => simp [compareRecency, recencyRank]
  | none => cases t <;> simp [compareRecency, recencyRank]

/-- Where a key ranks: by the time of selection first, then by the place in the keyrings. -/
def rank (key : SortKey) : WithTop ℕᵒᵈ ×ₗ WithTop ℕ :=
  toLex (recencyRank key.lastSelected, key.place.rank)

/-- **One key may stand before another when its rank is at most the other's.** -/
theorem le_iff (a b : SortKey) : a.le b = true ↔ a.rank ≤ b.rank := by
  rw [le, compare, Ordering.isLE_then_iff_or, compareRecency_eq_lt_iff, compareRecency_eq_eq_iff,
    KeyringPlace.compare_isLE_iff, rank, rank, Prod.Lex.toLex_le_toLex]

theorem le_trans (a b c : SortKey) (ab : a.le b = true) (bc : b.le c = true) : a.le c = true := by
  rw [le_iff] at *
  exact ab.trans bc

theorem le_total (a b : SortKey) : (a.le b || b.le a) = true := by
  rw [Bool.or_eq_true, le_iff, le_iff]
  exact LinearOrder.le_total a.rank b.rank

end SortKey

/-! ## Sorting by keys -/

section Sorting

variable {α β : Type} {key : α → SortKey}

theorem sortByKey_perm (key : α → SortKey) (items : List α) :
    (sortByKey key items).Perm items :=
  List.mergeSort_perm items _

theorem pairwise_le_sortByKey (key : α → SortKey) (items : List α) :
    (sortByKey key items).Pairwise fun a b => (key a).le (key b) = true := by
  have trans (a b c : α) (ab : (key a).le (key b) = true) (bc : (key b).le (key c) = true) :=
    SortKey.le_trans _ _ _ ab bc
  have total (a b : α) := SortKey.le_total (key a) (key b)
  exact List.pairwise_mergeSort trans total items

/-- Sorting depends on the keys of what is sorted alone, and only on how they compare. -/
theorem map_sortByKey {key : α → SortKey} {key' : β → SortKey} {f : α → β} {items : List α}
    (same : ∀ a ∈ items, ∀ b ∈ items, (key a).le (key b) = (key' (f a)).le (key' (f b))) :
    (sortByKey key items).map f = sortByKey key' (items.map f) :=
  List.map_mergeSort same

theorem sortByKey_congr {key key' : α → SortKey} {items : List α}
    (same : ∀ a ∈ items, ∀ b ∈ items, (key a).le (key b) = (key' a).le (key' b)) :
    sortByKey key items = sortByKey key' items := by
  have mapped : (sortByKey key items).map id = sortByKey key' (items.map id) := map_sortByKey same
  rwa [List.map_id, List.map_id] at mapped

/-- Items that correspond one by one, with equal keys, still do when both lists are sorted. -/
theorem sortByKey_forall₂ {R : α → β → Prop} {key : α → SortKey} {key' : β → SortKey}
    {items : List α} {others : List β} (keys : ∀ a b, R a b → key a = key' b)
    (related : List.Forall₂ R items others) :
    List.Forall₂ R (sortByKey key items) (sortByKey key' others) := by
  -- Both sorts are those of the pairs, which have one key each.
  obtain ⟨sameLength, pairs⟩ := List.forall₂_iff_zip.1 related
  have ofPair {pair : α × β} (member : pair ∈ items.zip others) : R pair.1 pair.2 :=
    pairs member
  have sortedLeft : (sortByKey (fun pair => key pair.1) (items.zip others)).map Prod.fst =
      sortByKey key items := by
    have keyLeft : ∀ a ∈ items.zip others, ∀ b ∈ items.zip others,
        (key a.1).le (key b.1) = (key a.1).le (key b.1) := fun _ _ _ _ => rfl
    rw [map_sortByKey keyLeft, List.map_fst_zip sameLength.le]
  have sortedRight : (sortByKey (fun pair => key pair.1) (items.zip others)).map Prod.snd =
      sortByKey key' others := by
    have keyRight : ∀ a ∈ items.zip others, ∀ b ∈ items.zip others,
        (key a.1).le (key b.1) = (key' a.2).le (key' b.2) := by
      intro a memberA b memberB
      rw [keys _ _ (ofPair memberA), keys _ _ (ofPair memberB)]
    rw [map_sortByKey keyRight, List.map_snd_zip sameLength.ge]
  rw [← sortedLeft, ← sortedRight, List.forall₂_map_left_iff, List.forall₂_map_right_iff,
    List.forall₂_same]
  exact fun pair member => ofPair ((sortByKey_perm _ _).subset member)

/-- The places of items in a list ascend. -/
theorem pairwise_snd_zipIdx (items : List α) : items.zipIdx.Pairwise fun a b => a.2 < b.2 := by
  rw [← List.pairwise_map (f := Prod.snd), List.zipIdx_map_snd]
  exact List.pairwise_lt_range'

/-- **The sort is stable**: one item stands before another only with a lower rank, or with the same
rank if it stood before it already.  Induction on the items: the first of them goes behind those
that must stand before it, and before all others. -/
theorem sortByKey_pairwise {R : α → α → Prop} {items : List α} (ordered : items.Pairwise R) :
    (sortByKey key items).Pairwise fun a b =>
      (key a).rank < (key b).rank ∨ (key a).rank = (key b).rank ∧ R a b := by
  have trans (a b c : α) (ab : (key a).le (key b) = true) (bc : (key b).le (key c) = true) :=
    SortKey.le_trans _ _ _ ab bc
  have total (a b : α) := SortKey.le_total (key a) (key b)
  induction items with
  | nil => simp [sortByKey]
  | cons a more ih =>
    obtain ⟨beforeMore, orderedMore⟩ := List.pairwise_cons.1 ordered
    obtain ⟨front, back, sorted, sortedMore, below⟩ := List.mergeSort_cons trans total a more
    have perm : (front ++ back).Perm more := sortedMore ▸ List.mergeSort_perm more _
    have inOrder : (front ++ a :: back).Pairwise fun a b => (key a).le (key b) = true :=
      sorted ▸ pairwise_le_sortByKey key (a :: more)
    have ih := ih orderedMore
    rw [sortByKey, sortedMore, List.pairwise_append] at ih
    obtain ⟨frontOrdered, backOrdered, across⟩ := ih
    rw [List.pairwise_append] at inOrder
    rw [sortByKey, sorted, List.pairwise_append]
    refine ⟨frontOrdered, List.pairwise_cons.2 ⟨fun b inBack => ?_, backOrdered⟩, ?_⟩
    · have le := (SortKey.le_iff _ _).1 ((List.pairwise_cons.1 inOrder.2.1).1 b inBack)
      rcases le.lt_or_eq with lt | eq
      · exact .inl lt
      · exact .inr ⟨eq, beforeMore b (perm.subset (List.mem_append_right _ inBack))⟩
    · intro b inFront c member
      rcases List.mem_cons.1 member with rfl | inBack
      · left
        have notLe := below b inFront
        rw [Bool.not_eq_true', ← Bool.not_eq_true, SortKey.le_iff, not_le] at notLe
        exact notLe
      · exact across b inFront c inBack

end Sorting

end WalletView
