/-
# Proofs.Wallet.Slices — only the slices of a snapshot matter, in any order

Of a snapshot that is an object just those members count whose names are slices', each with the text
of its value (`slices`):

* a slice that no member has is empty, one that a member has is what the value of that member
  denotes, and none may be had by two (`Slice.SaidBy`, `Snapshot.parse_eq_ok_iff_saidBy`);
* so two objects that have the same slices are the same snapshot, whatever the order of their
  members, however they are spaced, and whatever else is in them (`Snapshot.parse_of_same_slices`).
-/
import WalletView.Wallet.Slice
import WalletView.Proofs.Wallet.Steady
import WalletView.Proofs.Json.ObjectRecord

set_option autoImplicit false

namespace WalletView

open Json (MemberText IsObjectText valuesOf)
open Json.Field (denotes_withDefault_iff)

/-! ## Members that are slices -/

/-- The slices among the members of an object, with the texts of their values. -/
def slices (members : List MemberText) : List (Slice × List Char) :=
  members.filterMap fun m => (Slice.ofName? m.name).map (·, m.value)

namespace Slice

theorem ofName?_name (slice : Slice) : ofName? slice.name = some slice := by
  cases slice <;> rfl

theorem name_injective {slice slice' : Slice} (same : slice.name = slice'.name) :
    slice = slice' := by
  have found := ofName?_name slice
  rw [same, ofName?_name] at found
  exact (Option.some.inj found).symm

theorem ofName?_eq_some_iff {name : String} {slice : Slice} :
    ofName? name = some slice ↔ name = slice.name := by
  constructor
  · intro found
    have named := List.find?_some found
    exact (beq_iff_eq.1 named).symm
  · rintro rfl
    exact ofName?_name slice

/-- The values of a slice are found among the slices. -/
theorem valuesOf_name (slice : Slice) (members : List MemberText) :
    valuesOf slice.name members =
      (slices members).filterMap fun part => if part.1 = slice then some part.2 else none := by
  rw [slices, List.filterMap_filterMap, valuesOf]
  congr 1
  funext m
  cases found : ofName? m.name with
  | none =>
    have isOther : m.name ≠ slice.name := fun same => by
      rw [ofName?_eq_some_iff.2 same] at found
      cases found
    rw [if_neg isOther]
    rfl
  | some slice' =>
    have isName := ofName?_eq_some_iff.1 found
    by_cases same : slice' = slice
    · rw [same] at isName
      simp [isName, same]
    · have isOther : m.name ≠ slice.name := fun named =>
        same (name_injective (isName.symm.trans named))
      simp [isOther, same]

end Slice

/-! ## What members say about slices -/

namespace Slice

/-- A snapshot's slice is what the text of its value denotes, or empty if there is none. -/
def Denotes (slice : Slice) (value : Option (List Char)) (s : Snapshot Plain) : Prop :=
  match slice with
  | pendingApprovals => PendingApproval.codec.idMap.Denotes .empty value s.pendingApprovals
  | unapprovedPersonalMsgs =>
    SignableMessage.codec.sortedMap.Denotes .empty value s.unapprovedPersonalMsgs
  | unapprovedTypedMessages =>
    SignableMessage.codec.sortedMap.Denotes .empty value s.unapprovedTypedMessages
  | transactions => TransactionRecord.codec.list.Denotes [] value s.transactions
  | providerConfig => ProviderConfig.codec.Denotes .empty value s.providerConfig
  | preferences => Preferences.codec.Denotes ⟨false⟩ value s.preferences
  | featureFlags => FeatureFlags.codec.Denotes .off value s.featureFlags
  | subjects => Subject.codec.idMap.Denotes .empty value s.subjects
  | subjectMetadata => SubjectMetadata.codec.idMap.Denotes .empty value s.subjectMetadata
  | permissionHistory => PermissionHistory.codec.Denotes .empty value s.permissionHistory
  | internalAccounts => InternalAccounts.codec.Denotes .empty value s.internalAccounts
  | keyrings => KeyringGroup.codec.list.Denotes [] value s.keyrings
  | activeTab => ActiveTab.codec.Denotes .empty value s.activeTab
  | bridge => BridgeState.codec.Denotes ⟨none⟩ value s.bridge

/-- What the members of an object say about a slice: no more than one has its name, and the slice is
what the value of that one denotes, or empty if there is none. -/
def SaidBy (slice : Slice) (members : List MemberText) (s : Snapshot Plain) : Prop :=
  ∃ value : Option (List Char),
    valuesOf slice.name members = value.toList ∧ slice.Denotes value s

/-- Members with the same slices say the same, in any order. -/
theorem SaidBy.of_perm {slice : Slice} {members members' : List MemberText} {s : Snapshot Plain}
    (said : slice.SaidBy members s) (same : (slices members').Perm (slices members)) :
    slice.SaidBy members' s := by
  obtain ⟨value, values, denotes⟩ := said
  have perm : (valuesOf slice.name members').Perm value.toList := by
    rw [← values, valuesOf_name, valuesOf_name]
    exact same.filterMap _
  refine ⟨value, ?_, denotes⟩
  cases value with
  | none => exact perm.eq_nil
  | some text => exact List.perm_singleton.1 perm

end Slice

namespace Snapshot

/-- **An object is a snapshot just if its members say what every slice is.** -/
theorem parse_eq_ok_iff_saidBy {members : List MemberText} {text : String} {s : Snapshot Plain}
    (isObject : IsObjectText members text.toList) :
    parse text = .ok s ↔ ∀ slice : Slice, slice.SaidBy members s := by
  have distinct : fields.names.Nodup := by decide
  rw [parse_eq_ok_iff]
  refine (Json.Codec.record_readAll_iff fields_steady distinct isObject).trans ?_
  constructor
  · rintro ⟨row, denotes, rfl⟩ slice
    obtain ⟨pendingApprovals, personalMsgs, typedMessages, transactions, providerConfig, preferences,
      featureFlags, subjects, subjectMetadata, permissionHistory, internalAccounts, keyrings,
      activeTab, bridge, -⟩ := denotes
    cases slice with
    | pendingApprovals => exact denotes_withDefault_iff.1 pendingApprovals
    | unapprovedPersonalMsgs => exact denotes_withDefault_iff.1 personalMsgs
    | unapprovedTypedMessages => exact denotes_withDefault_iff.1 typedMessages
    | transactions => exact denotes_withDefault_iff.1 transactions
    | providerConfig => exact denotes_withDefault_iff.1 providerConfig
    | preferences => exact denotes_withDefault_iff.1 preferences
    | featureFlags => exact denotes_withDefault_iff.1 featureFlags
    | subjects => exact denotes_withDefault_iff.1 subjects
    | subjectMetadata => exact denotes_withDefault_iff.1 subjectMetadata
    | permissionHistory => exact denotes_withDefault_iff.1 permissionHistory
    | internalAccounts => exact denotes_withDefault_iff.1 internalAccounts
    | keyrings => exact denotes_withDefault_iff.1 keyrings
    | activeTab => exact denotes_withDefault_iff.1 activeTab
    | bridge => exact denotes_withDefault_iff.1 bridge
  · intro said
    refine ⟨(s.pendingApprovals, s.unapprovedPersonalMsgs, s.unapprovedTypedMessages,
      s.transactions, s.providerConfig, s.preferences, s.featureFlags, s.subjects,
      s.subjectMetadata, s.permissionHistory, s.internalAccounts, s.keyrings, s.activeTab,
      s.bridge, ()), ?_, rfl⟩
    exact ⟨denotes_withDefault_iff.2 (said .pendingApprovals),
      denotes_withDefault_iff.2 (said .unapprovedPersonalMsgs),
      denotes_withDefault_iff.2 (said .unapprovedTypedMessages),
      denotes_withDefault_iff.2 (said .transactions),
      denotes_withDefault_iff.2 (said .providerConfig),
      denotes_withDefault_iff.2 (said .preferences),
      denotes_withDefault_iff.2 (said .featureFlags),
      denotes_withDefault_iff.2 (said .subjects),
      denotes_withDefault_iff.2 (said .subjectMetadata),
      denotes_withDefault_iff.2 (said .permissionHistory),
      denotes_withDefault_iff.2 (said .internalAccounts),
      denotes_withDefault_iff.2 (said .keyrings),
      denotes_withDefault_iff.2 (said .activeTab),
      denotes_withDefault_iff.2 (said .bridge), trivial⟩

/-- **Only its slices matter to a snapshot that is an object.**  Whatever members such a text has,
they say what every slice is, and every object with the same slices is the same snapshot: one whose
members stand in another order, and one with members of other names or without them, whatever the
values of those are. -/
theorem parse_of_same_slices {text : String} {s : Snapshot Plain} {start : List Char}
    (read : parse text = .ok s) (front : Json.skipBlanks text.toList = '\x7b' :: start) :
    (∃ members, IsObjectText members text.toList) ∧
      ∀ members, IsObjectText members text.toList →
        (∀ slice : Slice, slice.SaidBy members s) ∧
          ∀ (text' : String) (members' : List MemberText), IsObjectText members' text'.toList →
            (slices members').Perm (slices members) → parse text' = .ok s := by
  refine ⟨?_, fun members isObject => ?_⟩
  · exact Json.Codec.exists_members_of_record fields_steady front (parse_eq_ok_iff.1 read)
  · have said := (parse_eq_ok_iff_saidBy isObject).1 read
    refine ⟨said, fun text' members' isObject' same => ?_⟩
    exact (parse_eq_ok_iff_saidBy isObject').2 fun slice => (said slice).of_perm same

/-- Two slices in the other order, and between them a number that no double can hold. -/
theorem parse_of_same_slices_beside_number :
    let keyrings := "[\x7b\"accounts\":[\"0xab\",\"0xCD\"]\x7d]"
    let activeTab := "\x7b\"origin\":\"https://remix.ethereum.org\"\x7d"
    let text := "\x7b\"keyrings\":" ++ keyrings ++ ",\"activeTab\":" ++ activeTab ++ "\x7d"
    let text' := "\x7b\"activeTab\":" ++ activeTab ++ ",\"offers\":1e999,\"keyrings\":" ++ keyrings ++
      "\x7d"
    let s : Snapshot Plain := { empty with
      keyrings := [⟨none, ["0xab", "0xCD"]⟩]
      activeTab := { ActiveTab.empty with origin := some "https://remix.ethereum.org" } }
    parse text = .ok s ∧ parse text' = .ok s := by
  intro keyringsText activeTabText text text' s
  have read : parse text = .ok s := by
    subst text keyringsText activeTabText
    with_unfolding_all rfl
  have front : Json.skipBlanks text.toList = '\x7b' :: (text.toList.drop 1) := by decide
  -- What a steady reader reads up to its end is a value.
  have keyringsRead : (KeyringGroup.codec.list.reader 3).run keyringsText.toList =
      .ok (s.keyrings, []) := by
    subst keyringsText
    with_unfolding_all rfl
  have activeTabRead : (ActiveTab.codec.reader 1).run activeTabText.toList =
      .ok (s.activeTab, []) := by
    subst activeTabText
    with_unfolding_all rfl
  have keyringsSkipped := (Json.Codec.list_steady KeyringGroup.codec_steady 3).passes keyringsRead
  have activeTabSkipped := (ActiveTab.codec_steady 1).passes activeTabRead
  let keyrings : MemberText := .unspaced "keyrings" keyringsText.toList (by decide)
    (Json.isValue_of_skip keyringsSkipped (by decide))
  let activeTab : MemberText := .unspaced "activeTab" activeTabText.toList (by decide)
    (Json.isValue_of_skip activeTabSkipped (by decide))
  let offers : MemberText := .unspaced "offers" "1e999".toList (by decide)
    (Json.isValue_of_passNumber (by decide))
  have isObject : IsObjectText [keyrings, activeTab] text.toList := by
    refine ⟨[], [], [], .nil, .nil, .nil, ?_⟩
    simp [text, keyrings, activeTab, MemberText.join]
  have isObject' : IsObjectText [activeTab, offers, keyrings] text'.toList := by
    refine ⟨[], [], [], .nil, .nil, .nil, ?_⟩
    simp [text', activeTab, offers, keyrings, MemberText.join]
  have same : (slices [activeTab, offers, keyrings]).Perm (slices [keyrings, activeTab]) :=
    .swap _ _ _
  exact ⟨read, ((parse_of_same_slices read front).2 _ isObject).2 _ _ isObject' same⟩

end Snapshot

end WalletView
