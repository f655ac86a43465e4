/-
# Json.Value — values of any shape

A free-form value is read as it stands, except that the members of an object are put in the
order of their keys and the last of several members with one key is kept.
-/
import WalletView.Json.Reader
import WalletView.Map.Sorted

set_option autoImplicit false

namespace WalletView.Json

/-- An object with these members, sorted by key, the last one of each key kept. -/
def ofMembers (members : List (String × Json)) : Json :=
  .object (SortedMap.ofList members).entries

/-- Reads a value from its first character, given how to go on inside a bracket. -/
def readFreeForm (list object : List Char → Outcome Json) (c : Char) (rest : List Char) :
    Outcome Json :=
  if c = 'n' then (readWord ['u', 'l', 'l'] rest).map fun rest => (.null, rest)
  else if c = 't' then (readWord ['r', 'u', 'e'] rest).map fun rest => (.bool true, rest)
  else if c = 'f' then (readWord ['a', 'l', 's', 'e'] rest).map fun rest => (.bool false, rest)
  else if c = '"' then (readString rest).map fun (s, rest) => (.string s, rest)
  else if c = '[' then list rest
  else if c = '{' then object rest
  else if startsNumber c then (readNumber (c :: rest)).map fun (n, rest) => (.number n, rest)
  else .error .expectedValue

theorem readFreeForm_suffix {list object : List Char → Outcome Json}
    (listSuffix : ∀ {text rest a}, list text = .ok (a, rest) → rest <:+ text)
    (objectSuffix : ∀ {text rest a}, object text = .ok (a, rest) → rest <:+ text)
    {c : Char} {text rest : List Char} {a : Json}
    (h : readFreeForm list object c text = .ok (a, rest)) : rest <:+ text := by
  have word {letters : List Char} {value : Json}
      (h : (readWord letters text).map (fun rest => (value, rest)) = .ok (a, rest)) :
      rest <:+ text := by
    obtain ⟨last, read, same⟩ := map_eq_ok.1 h
    obtain ⟨-, rfl⟩ := Prod.mk.inj same
    exact readWord_suffix read
  unfold readFreeForm at h
  repeat' split at h
  · exact word h
  · exact word h
  · exact word h
  · obtain ⟨⟨s, last⟩, read, same⟩ := map_eq_ok.1 h
    obtain ⟨-, rfl⟩ := Prod.mk.inj same
    exact (readString_rest read).suffix
  · exact listSuffix h
  · exact objectSuffix h
  · obtain ⟨⟨n, last⟩, read, same⟩ := map_eq_ok.1 h
    obtain ⟨-, rfl⟩ := Prod.mk.inj same
    exact (readNumber_rest read).suffix_tail
  · simp at h

/-- Reads a value of any shape.  `room` is how many brackets may be opened inside one another. -/
def freeForm : (room : Nat) → Reader Json
  | 0 =>
    .front (readFreeForm (fun _ => .error .tooDeep) (fun _ => .error .tooDeep))
      (readFreeForm_suffix (by simp) (by simp))
  | room + 1 =>
    .front
      (readFreeForm
        (fun text =>
          (readItems (freeForm room) true text).map fun (items, rest) => (.array items, rest))
        (fun text =>
          (readMembers (freeForm room) true text).map fun (members, rest) =>
            (ofMembers members, rest)))
      (readFreeForm_suffix
        (by
          intro text rest a h
          obtain ⟨⟨items, last⟩, read, same⟩ := map_eq_ok.1 h
          obtain ⟨-, rfl⟩ := Prod.mk.inj same
          exact readItems_suffix read)
        (by
          intro text rest a h
          obtain ⟨⟨members, last⟩, read, same⟩ := map_eq_ok.1 h
          obtain ⟨-, rfl⟩ := Prod.mk.inj same
          exact readMembers_suffix read))

end WalletView.Json
