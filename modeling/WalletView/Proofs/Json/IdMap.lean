/-
# Proofs.Json.IdMap — maps by id, from insertions, from texts, and back

There are several ways to the same map, and none is told from the others by the map:

* inserting entries one after another (`IdMap.ofList`);
* reading an object whose members are those entries, in the order of the text
  (`Codec.idMap_parse_eq_ok_iff`);
* collecting the entries of the map again, or reading what is written of it.

What the map keeps of the entries is `IdMap.Keeps`: every id where it first came, with the record that
came last.
-/
import WalletView.Proofs.Json.Codec
import WalletView.Proofs.Json.Object
import WalletView.Proofs.Json.SteadyRecord

set_option autoImplicit false

namespace WalletView

namespace Json

variable {α : Type} {c : Codec α}

/-- The member has the entry's id, and its value denotes the entry's record. -/
def MemberText.Says (m : MemberText) (c : Codec α) (entry : String × α) : Prop :=
  m.name = entry.1 ∧ (c.reader (greatestDepth - 1)).readAll m.value = .ok entry.2

/-- **A map is read from an object just if it is that of the entries that the members say**, inserted
in the order of the text. -/
theorem Codec.idMap_parse_eq_ok_iff (steady : c.Steady) {members : List MemberText} {text : String}
    (isObject : IsObjectText members text.toList) {m : IdMap α} :
    c.idMap.parse text = .ok m ↔
      ∃ history, List.Forall₂ (fun m entry => m.Says c entry) members history ∧
        IdMap.ofList history = m := by
  show ((Reader.members .idMap c.reader greatestDepth).map IdMap.ofList).readAll text.toList = .ok m ↔ _
  rw [Reader.readAll_map_iff]
  have areEntries (history : List (String × α)) :
      (Reader.members .idMap c.reader greatestDepth).readAll text.toList = .ok history ↔
        List.Forall₂ (fun m entry => m.Says c entry) members history :=
    Reader.members_readAll_iff (steady _) isObject
  simp only [areEntries]

/-- What is written of a map is read as the same map if its records are. -/
theorem Codec.idMap_parse_compact {m : IdMap α}
    (restores : ∀ entry ∈ m.entries, c.Restores (greatestDepth - 1) entry.2) :
    c.idMap.parse (c.idMap.encode m).compact = .ok m :=
  parse_compact (idMap_restores restores)

end Json

namespace IdMap

variable {α : Type}

/-- **A map by id is settled by the history of its insertions.**  It is the one map that keeps the
history, it is the map of its own entries, it is what is read from its text and from the text of any
object whose members are the history, a record that is inserted again changes nothing, and records
under two ids, one of which is known, may be inserted in either order. -/
theorem ofList_of_history (c : Json.Codec α) (history : List (String × α)) :
    (∀ m : IdMap α, m.Keeps history ↔ m = ofList history) ∧
    ofList (ofList history).entries = ofList history ∧
    ((∀ entry ∈ (ofList history).entries, c.Restores (Json.greatestDepth - 1) entry.2) →
      c.idMap.parse (c.idMap.encode (ofList history)).compact = .ok (ofList history)) ∧
    (c.Steady → ∀ (members : List Json.MemberText) (text : String),
      Json.IsObjectText members text.toList →
      List.Forall₂ (fun m entry => m.Says c entry) members history →
        c.idMap.parse text = .ok (ofList history)) ∧
    (∀ (id : String) (record : α),
      ((ofList history).insert id record).insert id record = (ofList history).insert id record) ∧
    ∀ (id id' : String) (record record' : α), id ≠ id' → (ofList history).contains id = true →
      ((ofList history).insert id record).insert id' record' =
        ((ofList history).insert id' record').insert id record := by
  refine ⟨fun m => keeps_iff, ofList_entries _, Json.Codec.idMap_parse_compact, ?_, ?_, ?_⟩
  · intro steady members text isObject areEntries
    exact (Json.Codec.idMap_parse_eq_ok_iff steady isObject).2 ⟨history, areEntries, rfl⟩
  · intro id record
    exact insert_insert (ofList history) id record record
  · intro id id' record record' different known
    exact insert_comm different known

/-- An object in which an id comes twice. -/
theorem ofList_of_history_renewed :
    ∃ m : IdMap UInt64, m.entries = [("a", 3), ("b", 2)] ∧
      Json.Codec.word.idMap.parse "\x7b\"a\":1,\"b\":2,\"a\":3\x7d" = .ok m ∧
      Json.Codec.word.idMap.parse (Json.Codec.word.idMap.encode m).compact = .ok m := by
  let member (name : String) (isPlain : (name.toList.all fun c => decide (Json.IsPlain c)) = true)
      (digit : Char) (isNumber : Json.passNumber [digit] = .ok []) : Json.MemberText :=
    .unspaced name [digit] isPlain (Json.isValue_of_passNumber isNumber)
  let members : List Json.MemberText :=
    [member "a" (by decide) '1' (by decide), member "b" (by decide) '2' (by decide),
      member "a" (by decide) '3' (by decide)]
  have isObject : Json.IsObjectText members (String.toList "\x7b\"a\":1,\"b\":2,\"a\":3\x7d") :=
    ⟨[], [], [], .nil, .nil, .nil, rfl⟩
  have areEntries : List.Forall₂ (fun m entry => m.Says Json.Codec.word entry) members
      [("a", 1), ("b", 2), ("a", 3)] := by
    refine .cons ⟨rfl, ?_⟩ (.cons ⟨rfl, ?_⟩ (.cons ⟨rfl, ?_⟩ .nil)) <;> decide +kernel
  obtain ⟨-, -, readBack, read, -⟩ :=
    ofList_of_history Json.Codec.word [("a", 1), ("b", 2), ("a", 3)]
  exact ⟨_, rfl, read Json.Codec.word_steady _ _ isObject areEntries,
    readBack fun entry _ => Json.Codec.word_restores _ entry.2⟩

end IdMap

end WalletView
