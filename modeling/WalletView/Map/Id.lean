/-
# Map.Id — records by id, in the order they came

The wallet keeps approvals, subjects and accounts under ids, and the order in which ids first
came is meaningful: it settles ties.  Inserting under a known id replaces the record where it
stands; a new id goes to the end.  So no id occurs twice, and a map is its list of entries.
-/

set_option autoImplicit false

namespace WalletView

/-- A map from ids to records that keeps the order in which the ids first came. -/
structure IdMap (α : Type) where
  entries : List (String × α)
  nodup : (entries.map Prod.fst).Nodup := by simp
deriving DecidableEq, Repr

namespace IdMap

variable {α β : Type}

def empty : IdMap α := ⟨[], by simp⟩

instance : Inhabited (IdMap α) := ⟨empty⟩

/-- Entries with a record put under an id. -/
def put (id : String) (record : α) : List (String × α) → List (String × α)
  | [] => [(id, record)]
  | (known, old) :: more =>
    if known = id then (id, record) :: more else (known, old) :: put id record more

theorem map_fst_put (id : String) (record : α) (entries : List (String × α)) :
    (put id record entries).map Prod.fst =
      if id ∈ entries.map Prod.fst then entries.map Prod.fst
      else entries.map Prod.fst ++ [id] := by
  induction entries with
  | nil => simp [put]
  | cons entry more ih =>
    obtain ⟨known, old⟩ := entry
    by_cases same : known = id
    · simp [put, same]
    · simp only [put, same, if_false, List.map_cons, ih, List.mem_cons, Ne.symm same, false_or]
      split <;> rfl

/-- Puts a record under an id: in place of the record there, or at the end. -/
def insert (m : IdMap α) (id : String) (record : α) : IdMap α where
  entries := put id record m.entries
  nodup := by
    rw [map_fst_put]
    split
    · exact m.nodup
    · rename_i fresh
      refine List.nodup_append.2 ⟨m.nodup, by simp, fun key member last isLast same => fresh ?_⟩
      rw [List.mem_singleton] at isLast
      exact isLast ▸ same ▸ member

/-- The map that holds the given entries, inserted one after another. -/
def ofList (entries : List (String × α)) : IdMap α :=
  entries.foldl (fun m entry => m.insert entry.1 entry.2) empty

/-- The record under an id. -/
def get? (m : IdMap α) (id : String) : Option α :=
  m.entries.lookup id

def contains (m : IdMap α) (id : String) : Bool :=
  (m.get? id).isSome

/-- The records, in order. -/
def values (m : IdMap α) : List α :=
  m.entries.map Prod.snd

def size (m : IdMap α) : Nat :=
  m.entries.length

def isEmpty (m : IdMap α) : Bool :=
  m.entries.isEmpty

end IdMap

end WalletView
