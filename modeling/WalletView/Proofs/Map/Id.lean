/-
# Proofs.Map.Id — an id stands for one record

So what is looked up is an entry, every entry is found, and a map is the map of its own entries,
whatever was inserted twice on the way to it.  Of a history of insertions it keeps the order in
which the ids first came (`map_fst_ofList`) and for each id the record that came last
(`get?_ofList`), and this says which map it is (`keeps_iff`).
-/
import Mathlib.Data.List.Induction
import Mathlib.Data.List.Nodup
import WalletView.Map.Id

set_option autoImplicit false

namespace WalletView

/-! ## Entries under their keys -/

section Entries

variable {α : Type} {entries : List (String × α)} {key : String} {value : α}

theorem mem_of_lookup (found : entries.lookup key = some value) : (key, value) ∈ entries := by
  obtain ⟨before, after, split, -⟩ := List.lookup_eq_some_iff.1 found
  rw [split]
  exact List.mem_append_right _ List.mem_cons_self

/-- Where no key stands twice, every entry is found. -/
theorem lookup_eq_some_iff_mem (nodup : (entries.map Prod.fst).Nodup) :
    entries.lookup key = some value ↔ (key, value) ∈ entries := by
  refine ⟨mem_of_lookup, fun member => ?_⟩
  cases found : entries.lookup key with
  | none => exact absurd rfl (bne_iff_ne.1 (List.lookup_eq_none_iff.1 found _ member))
  | some other =>
    have same := List.inj_on_of_nodup_map nodup (mem_of_lookup found) member rfl
    rw [(Prod.mk.inj same).2]

end Entries

namespace IdMap

variable {α : Type} {m : IdMap α} {id : String} {record : α}

theorem eq_of_entries_eq {n : IdMap α} (same : m.entries = n.entries) : m = n := by
  obtain ⟨entries, nodup⟩ := m
  obtain rfl : entries = n.entries := same
  rfl

/-- What is looked up is an entry, and every entry is found: no other stands under its id. -/
theorem get?_eq_some_iff : m.get? id = some record ↔ (id, record) ∈ m.entries :=
  lookup_eq_some_iff_mem m.nodup

theorem mem_values_of_get? (found : m.get? id = some record) : record ∈ m.values :=
  List.mem_map.2 ⟨_, get?_eq_some_iff.1 found, rfl⟩

theorem contains_eq_true_iff : m.contains id = true ↔ id ∈ m.entries.map Prod.fst := by
  rw [contains, Option.isSome_iff_exists, List.mem_map]
  constructor
  · rintro ⟨record, found⟩
    exact ⟨_, get?_eq_some_iff.1 found, rfl⟩
  · rintro ⟨⟨_, record⟩, member, rfl⟩
    exact ⟨record, get?_eq_some_iff.2 member⟩

/-- An id stands in one place. -/
theorem eq_of_split {before after before' after' : List (String × α)} {old : α}
    (split : m.entries = before ++ (id, record) :: after)
    (split' : m.entries = before' ++ (id, old) :: after') :
    before = before' ∧ record = old ∧ after = after' := by
  have nodup := m.nodup
  rw [split, List.map_append, List.map_cons, List.nodup_middle, List.nodup_cons, List.mem_append]
    at nodup
  have notBefore : (id, old) ∉ before := fun member =>
    nodup.1 (.inl (List.mem_map.2 ⟨_, member, rfl⟩))
  have notAfter : (id, old) ∉ after := fun member =>
    nodup.1 (.inr (List.mem_map.2 ⟨_, member, rfl⟩))
  obtain ⟨sameBefore, sameEntry, sameAfter⟩ :=
    (List.append_cons_inj_of_notMem notBefore notAfter).1 (split.symm.trans split')
  exact ⟨sameBefore, (Prod.mk.inj sameEntry).2, sameAfter⟩

/-! ## One more record -/

theorem lookup_cons (key known : String) (record : α) (more : List (String × α)) :
    ((known, record) :: more).lookup key = if key = known then some record else more.lookup key := by
  rw [List.lookup_cons]
  split
  · rename_i same
    rw [if_pos (beq_iff_eq.1 same)]
  · rename_i different
    rw [if_neg (beq_eq_false_iff_ne.1 different)]

theorem lookup_put (key : String) (entries : List (String × α)) :
    (put id record entries).lookup key =
      if key = id then some record else entries.lookup key := by
  induction entries with
  | nil => exact lookup_cons key id record []
  | cons entry more ih =>
    obtain ⟨known, old⟩ := entry
    rw [put]
    split
    · rename_i same
      rw [lookup_cons, lookup_cons, same]
      split <;> rfl
    · rename_i different
      rw [lookup_cons, lookup_cons, ih]
      by_cases isFirst : key = known
      · rw [if_pos isFirst, if_pos isFirst, if_neg (isFirst ▸ different)]
      · rw [if_neg isFirst, if_neg isFirst]

/-- Under the id stands the record that was inserted, under any other what stood there before. -/
theorem get?_insert (m : IdMap α) (id : String) (record : α) (key : String) :
    (m.insert id record).get? key = if key = id then some record else m.get? key :=
  lookup_put key m.entries

/-- A known id keeps its place. -/
theorem entries_insert_of_split {before after : List (String × α)} {old : α}
    (split : m.entries = before ++ (id, old) :: after) :
    (m.insert id record).entries = before ++ (id, record) :: after := by
  have nodup := m.nodup
  show put id record m.entries = _
  rw [split] at nodup ⊢
  clear split
  induction before with
  | nil => exact if_pos rfl
  | cons entry more ih =>
    obtain ⟨known, first⟩ := entry
    rw [List.cons_append, List.map_cons, List.nodup_cons] at nodup
    have isOther : known ≠ id := by
      rintro rfl
      exact nodup.1 (List.mem_map.2 ⟨_, List.mem_append_right _ List.mem_cons_self, rfl⟩)
    rw [List.cons_append, put, if_neg isOther, ih nodup.2]
    rfl

/-! ## Two more records -/

theorem put_put (id : String) (old new : α) (entries : List (String × α)) :
    put id new (put id old entries) = put id new entries := by
  induction entries with
  | nil => exact if_pos rfl
  | cons entry more ih =>
    obtain ⟨known, first⟩ := entry
    by_cases same : known = id
    · simp [put, same]
    · simp [put, same, ih]

/-- Of two records under one id the later stays. -/
theorem insert_insert (m : IdMap α) (id : String) (old new : α) :
    (m.insert id old).insert id new = m.insert id new :=
  eq_of_entries_eq (put_put id old new m.entries)

theorem put_comm {id' : String} {record' : α} (different : id ≠ id') {entries : List (String × α)}
    (known : id ∈ entries.map Prod.fst) :
    put id' record' (put id record entries) = put id record (put id' record' entries) := by
  induction entries with
  | nil => cases known
  | cons entry more ih =>
    obtain ⟨first, old⟩ := entry
    by_cases isFirst : first = id
    · simp [put, isFirst, different]
    · have knownMore : id ∈ more.map Prod.fst :=
        (List.mem_cons.1 known).resolve_left (Ne.symm isFirst)
      by_cases isOther : first = id'
      · simp [put, isOther, Ne.symm different]
      · simp [put, isFirst, isOther, ih knownMore]

/-- Records under two ids may be inserted in either order if one of the ids is known: it keeps its
place, and the other its own or the end. -/
theorem insert_comm {id' : String} {record' : α} (different : id ≠ id')
    (known : m.contains id = true) :
    (m.insert id record).insert id' record' = (m.insert id' record').insert id record :=
  eq_of_entries_eq (put_comm different (contains_eq_true_iff.1 known))

/-! ## Maps from entries -/

theorem put_of_fresh {entries : List (String × α)} (fresh : id ∉ entries.map Prod.fst) :
    put id record entries = entries ++ [(id, record)] := by
  induction entries with
  | nil => rfl
  | cons entry more ih =>
    obtain ⟨known, old⟩ := entry
    simp only [List.map_cons, List.mem_cons, not_or] at fresh
    rw [put, if_neg (Ne.symm fresh.1), ih fresh.2]
    rfl

/-- Entries with new ids are inserted behind those that are there. -/
theorem entries_foldl_insert {entries : List (String × α)}
    (nodup : ((m.entries ++ entries).map Prod.fst).Nodup) :
    (entries.foldl (fun m entry => m.insert entry.1 entry.2) m).entries = m.entries ++ entries := by
  induction entries generalizing m with
  | nil => rw [List.append_nil]; rfl
  | cons entry more ih =>
    have fresh : entry.1 ∉ m.entries.map Prod.fst := by
      rw [List.map_append, List.nodup_append] at nodup
      exact fun known => nodup.2.2 _ known _ List.mem_cons_self rfl
    have inserted : (m.insert entry.1 entry.2).entries = m.entries ++ [entry] := put_of_fresh fresh
    rw [List.foldl_cons, ih] <;> rw [inserted, List.append_assoc]
    · rfl
    · exact nodup

/-- **A map is the map of its entries.** -/
theorem ofList_entries (m : IdMap α) : ofList m.entries = m :=
  eq_of_entries_eq (entries_foldl_insert m.nodup)

/-! ## Histories of insertions -/

theorem ofList_concat (history : List (String × α)) (entry : String × α) :
    ofList (history ++ [entry]) = (ofList history).insert entry.1 entry.2 :=
  List.foldl_append

theorem eraseDups_concat (ids : List String) (id : String) :
    (ids ++ [id]).eraseDups =
      if id ∈ ids.eraseDups then ids.eraseDups else ids.eraseDups ++ [id] := by
  rw [List.eraseDups_append]
  by_cases known : id ∈ ids
  · simp [List.removeAll, known]
  · simp [List.removeAll, known, List.eraseDups_cons]

/-- **The ids stand in the order in which they first came.** -/
theorem map_fst_ofList (history : List (String × α)) :
    (ofList history).entries.map Prod.fst = (history.map Prod.fst).eraseDups := by
  induction history using List.reverseRecOn with
  | nil => rfl
  | append_singleton history entry ih =>
    rw [ofList_concat, List.map_append, List.map_singleton, eraseDups_concat, ← ih]
    exact map_fst_put entry.1 entry.2 (ofList history).entries

/-- **Under an id stands the record that came last.** -/
theorem get?_ofList (history : List (String × α)) (key : String) :
    (ofList history).get? key = history.reverse.lookup key := by
  induction history using List.reverseRecOn with
  | nil => rfl
  | append_singleton history entry ih =>
    rw [ofList_concat, get?_insert, ih, List.reverse_concat]
    exact (lookup_cons key entry.1 entry.2 history.reverse).symm

/-- What a map has of a history of insertions: every id once, in the order in which the ids first
came, with the record that came last. -/
structure Keeps (m : IdMap α) (history : List (String × α)) : Prop where
  distinct : (m.entries.map Prod.fst).Nodup
  ids : m.entries.map Prod.fst = (history.map Prod.fst).eraseDups
  latest : ∀ entry ∈ m.entries, history.reverse.lookup entry.1 = some entry.2
  get? : ∀ id, m.get? id = history.reverse.lookup id
  contains : ∀ id, m.contains id = true ↔ id ∈ history.map Prod.fst
  values : m.values.map some =
    (history.map Prod.fst).eraseDups.map fun id => history.reverse.lookup id
  size : m.size = (history.map Prod.fst).eraseDups.length
  isEmpty : m.isEmpty = history.isEmpty

theorem isEmpty_ofList (history : List (String × α)) :
    (ofList history).isEmpty = history.isEmpty := by
  cases history with
  | nil => rfl
  | cons entry more =>
    have ids := map_fst_ofList (entry :: more)
    rw [List.map_cons, List.eraseDups_cons] at ids
    have notEmpty : (ofList (entry :: more)).entries ≠ [] := fun isNil => by
      rw [isNil] at ids
      cases ids
    exact List.isEmpty_eq_false_iff.2 notEmpty

/-- **A map of a history of insertions keeps it.** -/
theorem keeps_ofList (history : List (String × α)) : (ofList history).Keeps history := by
  have ids := map_fst_ofList history
  have latest : ∀ entry ∈ (ofList history).entries,
      history.reverse.lookup entry.1 = some entry.2 := fun entry member =>
    (get?_ofList history entry.1).symm.trans (get?_eq_some_iff.2 member)
  refine ⟨(ofList history).nodup, ids, latest, get?_ofList history, fun id => ?_, ?_, ?_,
    isEmpty_ofList history⟩
  · rw [contains_eq_true_iff, ids, List.mem_eraseDups]
  · rw [values, ← ids, List.map_map, List.map_map]
    exact List.map_congr_left fun entry member => (latest entry member).symm
  · rw [size, ← ids, List.length_map]

/-- Ids with what stands under them are the entries. -/
theorem filterMap_fst_eq {entries : List (String × α)} (under : String → Option α)
    (found : ∀ entry ∈ entries, under entry.1 = some entry.2) :
    ((entries.map Prod.fst).filterMap fun id => (under id).map (id, ·)) = entries := by
  rw [List.filterMap_map]
  have same : ∀ entry ∈ entries,
      ((fun id => (under id).map (id, ·)) ∘ Prod.fst) entry = some entry := by
    intro entry member
    rw [Function.comp_apply, found entry member]
    rfl
  rw [List.filterMap_congr same, List.filterMap_some]

/-- **No other map keeps the history**, so what a map keeps of its history says which map it is. -/
theorem keeps_iff {history : List (String × α)} : m.Keeps history ↔ m = ofList history := by
  constructor
  · intro keeps
    have kept := keeps_ofList history
    have entries := filterMap_fst_eq (fun id => history.reverse.lookup id) keeps.latest
    have entries' := filterMap_fst_eq (fun id => history.reverse.lookup id) kept.latest
    refine eq_of_entries_eq ?_
    rw [← entries, ← entries', keeps.ids, kept.ids]
  · rintro rfl
    exact keeps_ofList history

/-- A map of entries has no other entries. -/
theorem mem_of_mem_ofList {entry : String × α} {entries : List (String × α)}
    (member : entry ∈ (ofList entries).entries) : entry ∈ entries := by
  have found : (ofList entries).get? entry.1 = some entry.2 := get?_eq_some_iff.2 member
  rw [get?_ofList] at found
  exact List.mem_reverse.1 (mem_of_lookup found)

end IdMap

end WalletView
