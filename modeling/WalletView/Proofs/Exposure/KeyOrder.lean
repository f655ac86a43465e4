/-
# Proofs.Exposure.KeyOrder — keys compare as their ranks, and a list has one stable sort

Comparing two keys tells just what comparing their ranks tells, and no two keys have one rank:

* `SortKey.compare_eq_cmp`: what a linear order's comparison satisfies, that of keys does;
* `SortKey.rank_injective`: keys that compare as equal are one key.

A place in the keyrings is kept in a machine word, whose greatest value stands for nowhere.  Places
compare as these words do (`KeyringPlace.compare_ofWord`), so nowhere comes last without a case of
its own.

In a stable sort the ranks, and where they are equal the places the items had, say which of two
items stands first.  No two items had one place, so there is one stable sort, and sorting by keys
gives it (`SortsStably.eq_sortedPlaces`).
-/
import Mathlib.Order.Compare
import WalletView.Proofs.Exposure.SortKey

set_option autoImplicit false

namespace WalletView

/-- A comparison that tells less and equal as a linear order does is the comparison in it. -/
theorem eq_cmp_of_iff {α : Type} [LinearOrder α] {a b : α} {o : Ordering} (less : o = .lt ↔ a < b)
    (equal : o = .eq ↔ a = b) : o = cmp a b := by
  rcases lt_trichotomy a b with before | same | after
  · rw [before.cmp_eq_lt, less]
    exact before
  · rw [same.cmp_eq_eq, equal]
    exact same
  · rw [after.cmp_eq_gt]
    cases o with
    | lt => exact absurd (less.1 rfl) after.asymm
    | eq => exact absurd (equal.1 rfl) after.ne'
    | gt => rfl

/-! ## Places -/

namespace KeyringPlace

theorem compare_eq_lt_iff (p q : KeyringPlace) : p.compare q = .lt ↔ p.rank < q.rank := by
  cases p with
  | listed m =>
    cases q with
    | listed n =>
      rw [rank, rank, WithTop.coe_lt_coe]
      exact Std.compare_eq_lt
    | unlisted => simp [compare, rank]
  | unlisted => cases q <;> simp [compare, rank]

theorem compare_eq_eq_iff (p q : KeyringPlace) : p.compare q = .eq ↔ p.rank = q.rank := by
  cases p with
  | listed m =>
    cases q with
    | listed n =>
      rw [rank, rank, WithTop.coe_inj]
      exact Std.LawfulEqOrd.compare_eq_iff_eq
    | unlisted => simp [compare, rank]
  | unlisted => cases q <;> simp [compare, rank]

theorem rank_injective : Function.Injective rank := by
  intro p q same
  cases p <;> cases q <;> simp_all [rank]

/-- The place that a machine word stands for: its number, and nowhere for the greatest word. -/
def ofWord (w : UInt64) : KeyringPlace :=
  if w.toNat + 1 < UInt64.size then listed w.toNat else unlisted

/-- **Places compare as the words that stand for them**, the greatest word among them. -/
theorem compare_ofWord (v w : UInt64) : (ofWord v).compare (ofWord w) = Ord.compare v w := by
  have boundV := v.toNat_lt
  have boundW := w.toNat_lt
  have size : UInt64.size = 2 ^ 64 := rfl
  have words : Ord.compare v w = Ord.compare v.toNat w.toNat := by
    show compareOfLessAndEq v w = compareOfLessAndEq v.toNat w.toNat
    simp only [compareOfLessAndEq, UInt64.lt_iff_toNat_lt, ← UInt64.toNat_inj]
  unfold ofWord
  by_cases notLastV : v.toNat + 1 < UInt64.size
  · by_cases notLastW : w.toNat + 1 < UInt64.size
    · rw [if_pos notLastV, if_pos notLastW, words]
      rfl
    · rw [if_pos notLastV, if_neg notLastW, words]
      exact (Std.compare_eq_lt.2 (by omega)).symm
  · by_cases notLastW : w.toNat + 1 < UInt64.size
    · rw [if_neg notLastV, if_pos notLastW, words]
      exact (Std.compare_eq_gt.2 (by omega)).symm
    · rw [if_neg notLastV, if_neg notLastW, words]
      exact (Std.LawfulEqOrd.compare_eq_iff_eq.2 (by omega)).symm

/-- The places that machine words stand for: all but positions that no word has room for. -/
theorem exists_ofWord {p : KeyringPlace} (fits : ∀ n, p = listed n → n + 1 < UInt64.size) :
    ∃ w, ofWord w = p := by
  cases p with
  | listed n =>
    have inRoom := fits n rfl
    have number : (UInt64.ofNat n).toNat = n := UInt64.toNat_ofNat_of_lt' (by omega)
    refine ⟨.ofNat n, ?_⟩
    rw [ofWord, number, if_pos inRoom]
  | unlisted => exact ⟨.ofNat (UInt64.size - 1), by decide⟩

end KeyringPlace

/-! ## Keys -/

theorem recencyRank_injective : Function.Injective recencyRank := by
  intro s t same
  cases s <;> cases t <;> simp_all [recencyRank, UInt64.toNat_inj]

namespace SortKey

theorem compare_eq_lt_iff (a b : SortKey) : a.compare b = .lt ↔ a.rank < b.rank := by
  rw [compare, Ordering.then_eq_lt, compareRecency_eq_lt_iff, compareRecency_eq_eq_iff,
    KeyringPlace.compare_eq_lt_iff, rank, rank, Prod.Lex.toLex_lt_toLex]

theorem compare_eq_eq_iff (a b : SortKey) : a.compare b = .eq ↔ a.rank = b.rank := by
  rw [compare, Ordering.then_eq_eq, compareRecency_eq_eq_iff, KeyringPlace.compare_eq_eq_iff, rank,
    rank, toLex_inj, Prod.mk.injEq]

/-- **Keys compare as their ranks.** -/
theorem compare_eq_cmp (a b : SortKey) : a.compare b = cmp a.rank b.rank :=
  eq_cmp_of_iff (compare_eq_lt_iff a b) (compare_eq_eq_iff a b)

theorem rank_injective : Function.Injective rank := by
  rintro ⟨s, p⟩ ⟨t, q⟩ same
  rw [rank, rank, toLex_inj, Prod.mk.injEq] at same
  obtain rfl := recencyRank_injective same.1
  obtain rfl := KeyringPlace.rank_injective same.2
  rfl

theorem compare_swap (a b : SortKey) : (a.compare b).swap = b.compare a := by
  rw [compare_eq_cmp, compare_eq_cmp, cmp_swap]

theorem le_iff_compare_ne_gt (a b : SortKey) : a.le b = true ↔ a.compare b ≠ .gt := by
  rw [le]
  cases a.compare b <;> decide

theorem lt_iff_compare_eq_lt (a b : SortKey) : a.lt b = true ↔ a.compare b = .lt := by
  rw [lt]
  cases a.compare b <;> decide

end SortKey

/-! ## The one stable sort -/

section Sorting

variable {α : Type} {key : α → SortKey} {items : List α} {arranged : List (α × ℕ)}

/-- An arrangement of items, each with the place it had, that sorts them by their keys and leaves
what has one key in its order. -/
structure SortsStably (key : α → SortKey) (items : List α) (arranged : List (α × ℕ)) : Prop where
  perm : arranged.Perm items.zipIdx
  ascending : arranged.Pairwise fun a b => (key a.1).le (key b.1) = true
  stable : arranged.Pairwise fun a b => key a.1 = key b.1 → a.2 < b.2

/-- The items as they are sorted, each with the place it had. -/
def sortedPlaces (key : α → SortKey) (items : List α) : List (α × ℕ) :=
  sortByKey (fun item => key item.1) items.zipIdx

theorem map_fst_sortedPlaces (key : α → SortKey) (items : List α) :
    (sortedPlaces key items).map Prod.fst = sortByKey key items := by
  have sorted : (sortedPlaces key items).map Prod.fst = sortByKey key (items.zipIdx.map Prod.fst) :=
    map_sortByKey fun _ _ _ _ => rfl
  rw [sorted, List.zipIdx_map_fst]

theorem sortsStably_sortedPlaces (key : α → SortKey) (items : List α) :
    SortsStably key items (sortedPlaces key items) where
  perm := sortByKey_perm _ _
  ascending := pairwise_le_sortByKey _ _
  stable := by
    refine (sortByKey_pairwise (pairwise_snd_zipIdx items)).imp ?_
    intro a b related same
    rcases related with lower | ⟨-, before⟩
    · exact absurd lower (same ▸ lt_irrefl _)
    · exact before

namespace SortsStably

/-- What stands before another item in a stable sort has a lower rank, or the same rank and had a
place before it. -/
theorem pairwise (sorts : SortsStably key items arranged) :
    arranged.Pairwise fun a b =>
      (key a.1).rank < (key b.1).rank ∨ (key a.1).rank = (key b.1).rank ∧ a.2 < b.2 := by
  refine sorts.ascending.imp₂ ?_ sorts.stable
  intro a b ascending stable
  rcases ((SortKey.le_iff _ _).1 ascending).lt_or_eq with lower | same
  · exact .inl lower
  · exact .inr ⟨same, stable (SortKey.rank_injective same)⟩

/-- **Any stable sort is the one that sorting by keys gives.** -/
theorem eq_sortedPlaces (sorts : SortsStably key items arranged) :
    arranged = sortedPlaces key items := by
  have sorted := sortsStably_sortedPlaces key items
  refine List.Perm.eq_of_pairwise ?_ sorts.pairwise sorted.pairwise
    (sorts.perm.trans sorted.perm.symm)
  intro a b _ _ before after
  -- Of two items each cannot stand before the other.
  rcases before with lower | ⟨same, before⟩
  · rcases after with higher | ⟨same, -⟩
    · exact absurd higher lower.asymm
    · exact absurd same lower.ne'
  · rcases after with higher | ⟨-, after⟩
    · exact absurd same higher.ne'
    · exact absurd after before.asymm

end SortsStably

end Sorting

/-- **Keys are ordered linearly, and a list has one stable sort.**  Comparing keys the other way
round gives the reverse; the order is transitive; keys compare as equal only if they are one; `≤`
and `<` are what comparing says; and keys compare as their ranks in the lexicographic order, and as
the machine words that their places are kept in.  So of all arrangements of items exactly one has
ascending keys and leaves what has one key in its order, and sorting by keys gives the items in this
arrangement. -/
theorem SortKey.compare_linear :
    (∀ a b : SortKey, (a.compare b).swap = b.compare a) ∧
    (∀ a b c : SortKey, a.le b = true → b.le c = true → a.le c = true) ∧
    (∀ a b : SortKey, a.compare b = .eq ↔ a = b) ∧
    (∀ a b : SortKey, (a.le b = true ↔ a.compare b ≠ .gt) ∧ (a.lt b = true ↔ a.compare b = .lt)) ∧
    (∀ a b : SortKey, a.compare b = cmp a.rank b.rank) ∧
    (∀ (s t : Option UInt64) (v w : UInt64),
      SortKey.compare ⟨s, .ofWord v⟩ ⟨t, .ofWord w⟩ = (compareRecency s t).then (Ord.compare v w)) ∧
    ∀ (α : Type) (key : α → SortKey) (items : List α), ∃ arranged : List (α × ℕ),
      arranged.map Prod.fst = sortByKey key items ∧
        ∀ other, SortsStably key items other ↔ other = arranged := by
  refine ⟨compare_swap, le_trans, ?_, ?_, compare_eq_cmp, ?_, ?_⟩
  · intro a b
    rw [compare_eq_eq_iff, rank_injective.eq_iff]
  · intro a b
    exact ⟨le_iff_compare_ne_gt a b, lt_iff_compare_eq_lt a b⟩
  · intro s t v w
    rw [compare, KeyringPlace.compare_ofWord]
  · intro α key items
    refine ⟨sortedPlaces key items, map_fst_sortedPlaces key items, ?_⟩
    intro other
    constructor
    · exact SortsStably.eq_sortedPlaces
    · rintro rfl
      exact sortsStably_sortedPlaces key items

end WalletView
