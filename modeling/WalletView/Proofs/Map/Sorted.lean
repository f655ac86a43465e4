/-
# Proofs.Map.Sorted — the first entry is the least

Since the entries ascend, they are inserted one behind another when a map is made from them anew:
a map is the map of its own entries.  Two maps with the same entries in any order are one, so what
stands under each name says which map it is (`eq_of_get?_eq`).
-/
import WalletView.Map.Sorted
import WalletView.Proofs.Map.Id

set_option autoImplicit false

namespace WalletView.SortedMap

variable {α : Type} {m : SortedMap α}

theorem nodup (m : SortedMap α) : (m.entries.map Prod.fst).Nodup :=
  m.sorted.imp fun lt => Std.ne_of_lt lt

/-- One name stands for one entry. -/
theorem eq_of_name_eq {a b : String × α} (memberA : a ∈ m.entries) (memberB : b ∈ m.entries)
    (same : a.1 = b.1) : a = b :=
  List.inj_on_of_nodup_map m.nodup memberA memberB same

/-- What is looked up is an entry, and every entry is found. -/
theorem get?_eq_some_iff {name : String} {value : α} :
    m.get? name = some value ↔ (name, value) ∈ m.entries :=
  lookup_eq_some_iff_mem m.nodup

theorem eq_of_entries_eq {n : SortedMap α} (same : m.entries = n.entries) : m = n := by
  obtain ⟨entries, sorted⟩ := m
  obtain rfl : entries = n.entries := same
  rfl

/-- **Maps with the same value under each name are one.** -/
theorem eq_of_get?_eq {n : SortedMap α} (same : ∀ name, m.get? name = n.get? name) : m = n := by
  have members (entry : String × α) : entry ∈ m.entries ↔ entry ∈ n.entries := by
    have value := same entry.1
    constructor
    · intro member
      exact get?_eq_some_iff.1 (value ▸ get?_eq_some_iff.2 member)
    · intro member
      exact get?_eq_some_iff.1 (value ▸ get?_eq_some_iff.2 member)
  have perm : m.entries.Perm n.entries :=
    (List.perm_ext_iff_of_nodup (List.Nodup.of_map _ m.nodup) (List.Nodup.of_map _ n.nodup)).2
      members
  refine eq_of_entries_eq (List.Perm.eq_of_pairwise (fun a b _ _ ab ba => ?_)
    (List.pairwise_map.1 m.sorted) (List.pairwise_map.1 n.sorted) perm)
  exact absurd (String.lt_trans ab ba) (String.lt_irrefl _)

/-- Under a name stands what `f` makes of the value there, if it keeps it. -/
theorem get?_filterMap {β : Type} (f : α → Option β) (m : SortedMap α) (name : String) :
    (m.filterMap f).get? name = (m.get? name).bind f := by
  have found (value : β) : (m.filterMap f).get? name = some value ↔
      (m.get? name).bind f = some value := by
    simp only [get?_eq_some_iff, filterMap, List.mem_filterMap, Option.map_eq_some_iff,
      Option.bind_eq_some_iff, Prod.exists, Prod.mk.injEq]
    constructor
    · rintro ⟨_, a, member, b, kept, rfl, rfl⟩
      exact ⟨a, member, kept⟩
    · rintro ⟨a, member, kept⟩
      exact ⟨name, a, member, value, kept, rfl, rfl⟩
  exact Option.ext found

/-- **The first entry with a name of some kind is the one with the least such name.** -/
theorem find?_eq_some_iff (m : SortedMap α) (p : String → Bool) {name : String} {value : α} :
    m.entries.find? (fun entry => p entry.1) = some (name, value) ↔
      (name, value) ∈ m.entries ∧ p name = true ∧
        ∀ other ∈ m.entries, p other.1 = true → name ≤ other.1 := by
  have least {found : String × α} (find : m.entries.find? (fun entry => p entry.1) = some found) :
      ∀ other ∈ m.entries, p other.1 = true → found.1 ≤ other.1 := by
    intro other member holds
    obtain ⟨-, before, after, split, unlike⟩ := List.find?_eq_some_iff_append.1 find
    rw [split, List.mem_append, List.mem_cons] at member
    rcases member with inBefore | rfl | inAfter
    · have unlike := unlike other inBefore
      rw [holds] at unlike
      exact absurd unlike (by decide)
    · exact Std.le_refl _
    · have sorted := List.pairwise_map.1 m.sorted
      rw [split, List.pairwise_append] at sorted
      exact Std.le_of_lt ((List.pairwise_cons.1 sorted.2.1).1 other inAfter)
  constructor
  · intro find
    have holds := List.find?_some (p := fun entry : String × α => p entry.1) find
    exact ⟨List.mem_of_find?_eq_some find, holds, least find⟩
  · rintro ⟨member, holds, isLeast⟩
    cases find : m.entries.find? (fun entry => p entry.1) with
    | none => exact absurd holds (List.find?_eq_none.1 find _ member)
    | some found =>
      have foundMember := List.mem_of_find?_eq_some find
      have foundHolds := List.find?_some (p := fun entry : String × α => p entry.1) find
      have same : found.1 = name :=
        Std.le_antisymm (least find _ member holds) (isLeast found foundMember foundHolds)
      rw [eq_of_name_eq foundMember member same]

/-! ## Maps from entries -/

theorem put_of_last {name : String} {value : α} {entries : List (String × α)}
    (last : ∀ known ∈ entries.map Prod.fst, known < name) :
    put name value entries = entries ++ [(name, value)] := by
  induction entries with
  | nil => rfl
  | cons entry more ih =>
    obtain ⟨known, old⟩ := entry
    obtain ⟨before, last⟩ := List.forall_mem_cons.1 last
    have notAfter : ¬ name < known := fun after =>
      String.lt_irrefl _ (String.lt_trans before after)
    rw [put, if_neg notAfter, if_neg (Std.ne_of_lt before), ih last]
    rfl

theorem mem_put {name : String} {value : α} {entry : String × α} {entries : List (String × α)}
    (member : entry ∈ put name value entries) : entry = (name, value) ∨ entry ∈ entries := by
  induction entries with
  | nil => exact .inl (List.mem_singleton.1 member)
  | cons first more ih =>
    obtain ⟨known, old⟩ := first
    rw [put] at member
    split at member
    · exact List.mem_cons.1 member
    · split at member
      · exact (List.mem_cons.1 member).imp_right (List.mem_cons_of_mem _)
      · rcases List.mem_cons.1 member with rfl | later
        · exact .inr List.mem_cons_self
        · exact (ih later).imp_right (List.mem_cons_of_mem _)

/-- Under other names stays what stood there. -/
theorem mem_put_of_ne {name : String} {value : α} {entry : String × α}
    {entries : List (String × α)} (isOther : entry.1 ≠ name) :
    entry ∈ put name value entries ↔ entry ∈ entries := by
  have notNew : entry ≠ (name, value) := fun same => isOther (congrArg Prod.fst same)
  induction entries with
  | nil => simp [put, notNew]
  | cons first more ih =>
    obtain ⟨known, old⟩ := first
    rw [put]
    split
    · simp [notNew]
    · split
      · rename_i same
        have notOld : entry ≠ (known, old) := fun isFirst =>
          isOther ((congrArg Prod.fst isFirst).trans same)
        simp [notNew, notOld]
      · simp only [List.mem_cons, ih]

/-- Entries with later names are inserted behind those that are there. -/
theorem entries_foldl_insert {entries : List (String × α)}
    (sorted : ((m.entries ++ entries).map Prod.fst).Pairwise (· < ·)) :
    (entries.foldl (fun m entry => m.insert entry.1 entry.2) m).entries = m.entries ++ entries := by
  induction entries generalizing m with
  | nil => rw [List.append_nil]; rfl
  | cons entry more ih =>
    have last : ∀ known ∈ m.entries.map Prod.fst, known < entry.1 := by
      rw [List.map_append, List.pairwise_append] at sorted
      exact fun known member => sorted.2.2 known member _ List.mem_cons_self
    have inserted : (m.insert entry.1 entry.2).entries = m.entries ++ [entry] := put_of_last last
    rw [List.foldl_cons, ih] <;> rw [inserted, List.append_assoc]
    · rfl
    · exact sorted

/-- **A map is the map of its entries.** -/
theorem ofList_entries (m : SortedMap α) : ofList m.entries = m :=
  eq_of_entries_eq (entries_foldl_insert m.sorted)

/-- A map of entries has no other entries. -/
theorem mem_of_mem_ofList {entry : String × α} {entries : List (String × α)}
    (member : entry ∈ (ofList entries).entries) : entry ∈ entries := by
  have inserted (m : SortedMap α) (entries : List (String × α))
      (member : entry ∈ (entries.foldl (fun m entry => m.insert entry.1 entry.2) m).entries) :
      entry ∈ m.entries ∨ entry ∈ entries := by
    induction entries generalizing m with
    | nil => exact .inl member
    | cons first more ih =>
      rcases ih _ member with old | later
      · rcases mem_put old with rfl | older
        · exact .inr List.mem_cons_self
        · exact .inl older
      · exact .inr (List.mem_cons_of_mem _ later)
  exact (inserted empty entries member).resolve_left nofun

end WalletView.SortedMap
