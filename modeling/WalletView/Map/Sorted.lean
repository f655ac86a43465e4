/-
# Map.Sorted — values under names, in the order of the names

Names are ordered by their characters' code points, which is also the order of their bytes.
The entries are kept strictly ascending, so a map is its list of entries and no name occurs
twice; inserting under a known name replaces its value.
-/

set_option autoImplicit false

namespace WalletView

/-- A map from names to values, in ascending order of the names. -/
structure SortedMap (α : Type) where
  entries : List (String × α)
  sorted : (entries.map Prod.fst).Pairwise (· < ·) := by simp
deriving DecidableEq, Repr

namespace SortedMap

variable {α β : Type}

def empty : SortedMap α := ⟨[], by simp⟩

instance : Inhabited (SortedMap α) := ⟨empty⟩

/-- Ascending entries with a value put under a name. -/
def put (name : String) (value : α) : List (String × α) → List (String × α)
  | [] => [(name, value)]
  | (known, old) :: more =>
    if name < known then (name, value) :: (known, old) :: more
    else if known = name then (name, value) :: more
    else (known, old) :: put name value more

theorem mem_map_fst_put {name key : String} {value : α} {entries : List (String × α)} :
    key ∈ (put name value entries).map Prod.fst ↔ key = name ∨ key ∈ entries.map Prod.fst := by
  induction entries with
  | nil => simp [put]
  | cons entry more ih =>
    obtain ⟨known, old⟩ := entry
    simp only [put]
    split
    · simp
    · split
      · rename_i same; simp [same]
      · simp only [List.map_cons, List.mem_cons, ih]
        constructor <;> rintro (h | h | h) <;> simp [h]

theorem pairwise_put {name : String} {value : α} {entries : List (String × α)}
    (sorted : (entries.map Prod.fst).Pairwise (· < ·)) :
    ((put name value entries).map Prod.fst).Pairwise (· < ·) := by
  induction entries with
  | nil => simp [put]
  | cons entry more ih =>
    obtain ⟨known, old⟩ := entry
    obtain ⟨below, rest⟩ := List.pairwise_cons.1 sorted
    simp only [put]
    split
    · rename_i before
      refine List.pairwise_cons.2 ⟨fun key member => ?_, sorted⟩
      rcases List.mem_cons.1 member with rfl | inMore
      · exact before
      · exact String.lt_trans before (below key inMore)
    · split
      · rename_i same
        subst same
        exact sorted
      · rename_i notBefore different
        refine List.pairwise_cons.2 ⟨fun key member => ?_, ih rest⟩
        rcases mem_map_fst_put.1 member with rfl | inMore
        · rcases Std.le_total (a := known) (b := key) with le | le
          · exact Std.lt_of_le_of_ne le different
          · exact absurd (Std.lt_of_le_of_ne le (Ne.symm different)) notBefore
        · exact below key inMore

/-- Puts a value under a name. -/
def insert (m : SortedMap α) (name : String) (value : α) : SortedMap α where
  entries := put name value m.entries
  sorted := pairwise_put m.sorted

/-- The map that holds the given entries, inserted one after another. -/
def ofList (entries : List (String × α)) : SortedMap α :=
  entries.foldl (fun m entry => m.insert entry.1 entry.2) empty

/-- The value under a name. -/
def get? (m : SortedMap α) (name : String) : Option α :=
  m.entries.lookup name

/-- The values under their names. -/
def values (m : SortedMap α) : List α :=
  m.entries.map Prod.snd

def size (m : SortedMap α) : Nat :=
  m.entries.length

/-- The values with `f` applied to each, told its place. -/
def mapIdx (f : Nat → α → β) (m : SortedMap α) : SortedMap β where
  entries := m.entries.mapIdx fun i entry => (entry.1, f i entry.2)
  sorted := by
    have names : (m.entries.mapIdx fun i entry => (entry.1, f i entry.2)).map Prod.fst =
        m.entries.map Prod.fst := by
      apply List.ext_getElem <;> simp
    exact names ▸ m.sorted

/-- The values with `f` applied to each. -/
def map (f : α → β) (m : SortedMap α) : SortedMap β :=
  m.mapIdx fun _ => f

/-- The values that `f` keeps, each under its name. -/
def filterMap (f : α → Option β) (m : SortedMap α) : SortedMap β where
  entries := m.entries.filterMap fun entry => (f entry.2).map fun b => (entry.1, b)
  sorted := by
    have keep (entries : List (String × α)) :
        ((entries.filterMap fun entry => (f entry.2).map fun b => (entry.1, b)).map
          Prod.fst).Sublist (entries.map Prod.fst) := by
      induction entries with
      | nil => simp
      | cons entry more ih =>
        simp only [List.filterMap_cons]
        cases f entry.2 with
        | none => exact ih.trans (List.sublist_cons_self _ _)
        | some b => exact ih.cons_cons _
    exact m.sorted.sublist (keep m.entries)

end SortedMap

end WalletView
