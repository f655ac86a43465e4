/-
# Proofs.Exposure.Casing — the casing of addresses changes neither exposure nor order

Allow-lists, keyrings, accounts and histories may each write an address with letters of another
case.  Addresses are compared in five places: when repeats are dropped from an allow-list, when the
records of an address are looked up, when a place in the keyrings is sought, when a time is sought
in the history, and when the sites of an address are listed.  In each of them matching is all that
counts, so inputs that correspond one by one up to casing show accounts that correspond one by one
(`orderConnectedAccounts_forall₂`) and list the same sites (`connectedSubjects_eq_of_match`).
-/
import WalletView.Exposure.Summaries
import WalletView.Proofs.Exposure.Ordering
import WalletView.Proofs.Exposure.Place

set_option autoImplicit false

namespace WalletView

/-! ## Equal but for the casing -/

/-- Lists of addresses that match one by one. -/
abbrev MatchOneByOne (addresses others : List Address) : Prop :=
  List.Forall₂ (fun a b => addressesMatch a b = true) addresses others

/-- Keyrings of the same shape whose addresses match one by one. -/
abbrev KeyringsMatch (keyrings others : List KeyringGroup) : Prop :=
  List.Forall₂ (fun g h => MatchOneByOne g.accounts h.accounts) keyrings others

/-- One record, but for the casing of its address. -/
structure AccountRecord.EqualButCasing (a b : AccountRecord) : Prop where
  address : addressesMatch a.address b.address = true
  others : a = { b with address := a.address }

/-- Ordering inputs with one history, whose allow-lists, keyrings and account maps correspond one by
one and are equal but for the casing of addresses. -/
structure OrderingInputs.EqualButCasing (i j : OrderingInputs) : Prop where
  permitted : MatchOneByOne i.permitted j.permitted
  accounts : List.Forall₂ (fun a b => a.1 = b.1 ∧ a.2.EqualButCasing b.2)
    i.accounts.accounts.entries j.accounts.accounts.entries
  keyrings : KeyringsMatch i.keyrings j.keyrings
  history : i.history = j.history

/-- Subjects under the same origins, in the same order, whose allow-lists are equal but for the
casing of addresses. -/
def SubjectsMatch (config : OrderingConfig) (subjects others : IdMap Subject) : Prop :=
  List.Forall₂ (fun s t => s.1 = t.1 ∧
    MatchOneByOne (s.2.permittedAccounts config) (t.2.permittedAccounts config))
    subjects.entries others.entries

/-! ## Comparing addresses -/

section Compare

variable {a b : Address} {addresses others : List Address}

/-- Addresses that match compare alike with addresses that match. -/
theorem addressesMatch_casing {p q : Address} (listed : addressesMatch p q = true)
    (same : addressesMatch a b = true) : addressesMatch p a = addressesMatch q b := by
  rw [addressesMatch_congr same, addressesMatch_comm p, addressesMatch_congr listed,
    addressesMatch_comm b]

theorem isPermitted_casing (casing : MatchOneByOne addresses others)
    (same : addressesMatch a b = true) : isPermitted addresses a = isPermitted others b := by
  induction casing with
  | nil => rfl
  | cons listed _ ih =>
    rw [isPermitted_cons, isPermitted_cons, addressesMatch_casing listed same, ih]

theorem placeIn_casing (casing : MatchOneByOne addresses others)
    (same : addressesMatch a b = true) : placeIn addresses a = placeIn others b := by
  induction casing with
  | nil => rfl
  | cons listed _ ih => rw [placeIn_cons, placeIn_cons, addressesMatch_casing listed same, ih]

theorem keyringPlace_casing {keyrings keyrings' : List KeyringGroup}
    (casing : KeyringsMatch keyrings keyrings')
    (same : addressesMatch a b = true) : keyringPlace keyrings a = keyringPlace keyrings' b := by
  have listed : MatchOneByOne (keyrings.flatMap KeyringGroup.accounts)
      (keyrings'.flatMap KeyringGroup.accounts) := List.rel_flatMap casing fun _ _ group => group
  exact placeIn_casing listed same

theorem lastShown?_casing (same : addressesMatch a b = true) (entry : PermissionHistoryEntry) :
    entry.lastShown? a = entry.lastShown? b := by
  simp only [PermissionHistoryEntry.lastShown?, addressesMatch_congr same]

end Compare

/-! ## Carrying the correspondence through the ordering -/

/-- What is kept of two corresponding lists corresponds, if it is the same in both. -/
theorem filter_forall₂ {α β : Type} {R : α → β → Prop} {p : α → Bool} {q : β → Bool}
    (alike : ∀ a b, R a b → p a = q b) {items : List α} {items' : List β}
    (related : List.Forall₂ R items items') :
    List.Forall₂ R (items.filter p) (items'.filter q) := by
  have holds (a : α) (b : β) (ab : R a b) : p a = true ↔ q b = true := by rw [alike a b ab]
  exact List.rel_filter (fun a b ab => holds a b ab) related

/-- Items that correspond, with matching addresses, are gathered in corresponding order. -/
theorem gather_forall₂ {α β : Type} {R : α → β → Prop} {address : α → Address}
    {address' : β → Address}
    (addresses : ∀ a b, R a b → addressesMatch (address a) (address' b) = true)
    {permitted others : List Address} (casing : MatchOneByOne permitted others)
    {items : List α} {items' : List β} (related : List.Forall₂ R items items') :
    List.Forall₂ R (gather address permitted items) (gather address' others items') := by
  induction casing generalizing items items' with
  | nil => exact .nil
  | @cons p q _ _ listed _ ih =>
    have alike (a : α) (b : β) (ab : R a b) :
        addressesMatch (address a) p = addressesMatch (address' b) q :=
      addressesMatch_casing (addresses a b ab) listed
    have first := filter_forall₂ alike related
    have more := filter_forall₂ (fun a b ab => congrArg (!·) (alike a b ab)) related
    rw [gather_cons, gather_cons]
    exact List.rel_append first (ih more)

namespace AccountRecord.EqualButCasing

variable {a b : AccountRecord}

/-- Accounts that are equal but for casing have one key. -/
theorem sortKey_eq (equal : a.EqualButCasing b) {keyrings keyrings' : List KeyringGroup}
    (casing : KeyringsMatch keyrings keyrings') :
    a.sortKey keyrings = b.sortKey keyrings' := by
  have selected : a.metadata = b.metadata := by rw [equal.others]
  rw [AccountRecord.sortKey, AccountRecord.sortKey, selected,
    keyringPlace_casing casing equal.address]

/-- They are stamped with one time. -/
theorem stamped (equal : a.EqualButCasing b) (history : Option PermissionHistoryEntry) :
    (a.stamped history).EqualButCasing (b.stamped history) := by
  refine ⟨by rw [address_stamped, address_stamped]; exact equal.address, ?_⟩
  have time : (history.bind fun entry => entry.lastShown? a.address) =
      history.bind fun entry => entry.lastShown? b.address := by
    simp only [lastShown?_casing equal.address]
  rw [address_stamped]
  unfold AccountRecord.stamped
  rw [time]
  split <;> rw [equal.others]

end AccountRecord.EqualButCasing

/-- **Inputs that are equal but for casing show the same accounts but for casing.** -/
theorem orderConnectedAccounts_forall₂ {i j : OrderingInputs} (equal : i.EqualButCasing j)
    (origin : Origin) (config : OrderingConfig) :
    List.Forall₂ AccountRecord.EqualButCasing
      (orderConnectedAccounts i origin config) (orderConnectedAccounts j origin config) := by
  have records : List.Forall₂ AccountRecord.EqualButCasing
      i.accounts.accounts.values j.accounts.accounts.values := by
    rw [IdMap.values, IdMap.values, List.forall₂_map_left_iff, List.forall₂_map_right_iff]
    exact equal.accounts.imp fun _ _ entry => entry.2
  have found : List.Forall₂ AccountRecord.EqualButCasing
      (connectedAccounts i.permitted i.accounts) (connectedAccounts j.permitted j.accounts) := by
    rw [connectedAccounts_eq_gather, connectedAccounts_eq_gather]
    exact gather_forall₂ (fun _ _ record => record.address) equal.permitted records
  have keys (a b : AccountRecord) (record : a.EqualButCasing b) :
      a.sortKey i.keyrings = b.sortKey j.keyrings := record.sortKey_eq equal.keyrings
  have sorted := sortByKey_forall₂ keys found
  rw [orderConnectedAccounts_eq, orderConnectedAccounts_eq, equal.history,
    List.forall₂_map_left_iff, List.forall₂_map_right_iff]
  exact sorted.imp fun _ _ record => record.stamped _

/-- **Subjects that match list the same sites** for addresses that match. -/
theorem connectedSubjects_eq_of_match {subjects others : IdMap Subject} {config : OrderingConfig}
    (casing : SubjectsMatch config subjects others) {a b : Address}
    (same : addressesMatch a b = true) (metadata : IdMap SubjectMetadata) :
    connectedSubjects subjects metadata a config = connectedSubjects others metadata b config := by
  have listed := filter_forall₂
    (p := fun entry => isPermitted (entry.2.permittedAccounts config) a)
    (q := fun entry => isPermitted (entry.2.permittedAccounts config) b)
    (fun _ _ entry => isPermitted_casing entry.2 same) casing
  rw [connectedSubjects, connectedSubjects, ← List.forall₂_eq_eq_eq, List.forall₂_map_left_iff,
    List.forall₂_map_right_iff]
  exact listed.imp fun _ _ entry => by rw [entry.1]

/-- **The casing of addresses changes neither exposure nor order.**  What sites see is the same, one
by one, but for the casing of the addresses shown, and an address has the same sites. -/
theorem exposure_casing :
    (∀ i j : OrderingInputs, i.EqualButCasing j → ∀ (origin : Origin) (config : OrderingConfig),
      List.Forall₂ AccountRecord.EqualButCasing
        (orderConnectedAccounts i origin config) (orderConnectedAccounts j origin config)) ∧
    ∀ (config : OrderingConfig) (subjects others : IdMap Subject)
      (metadata : IdMap SubjectMetadata) (a b : Address),
      SubjectsMatch config subjects others → addressesMatch a b = true →
        connectedSubjects subjects metadata a config =
          connectedSubjects others metadata b config :=
  ⟨fun _ _ equal origin config => orderConnectedAccounts_forall₂ equal origin config,
    fun _ _ _ metadata _ _ casing same => connectedSubjects_eq_of_match casing same metadata⟩

/-- A wallet and the same wallet with other casings everywhere but in the history. -/
theorem exposure_casing_mixed :
    let account (id : String) (address : Address) : AccountRecord :=
      ⟨id, address, .empty, .empty, [], ""⟩
    let history : PermissionHistory :=
      .ofList [("peepeth.com", .ofList [("eth_accounts", ⟨.ofList [("0xA", 7)], none⟩)])]
    let i : OrderingInputs :=
      { permitted := ["0xA", "0xb"],
        accounts := ⟨.ofList [("1", account "1" "0xa"), ("2", account "2" "0xB")], "1"⟩,
        keyrings := [⟨none, ["0xB", "0xA"]⟩], history }
    let j : OrderingInputs :=
      { permitted := ["0xa", "0xB"],
        accounts := ⟨.ofList [("1", account "1" "0xA"), ("2", account "2" "0xb")], "1"⟩,
        keyrings := [⟨none, ["0xb", "0xa"]⟩], history }
    let sites (permitted : Address) : IdMap Subject :=
      .ofList [("peepeth.com", ⟨none, .ofList [("eth_accounts",
        ⟨[⟨"restrictReturnedAccounts", .array [.string permitted]⟩], 0, "", "", ""⟩)]⟩)]
    (i.EqualButCasing j ∧
      (orderConnectedAccounts i "peepeth.com" .standard).length = 2 ∧
      List.Forall₂ AccountRecord.EqualButCasing
        (orderConnectedAccounts i "peepeth.com" .standard)
        (orderConnectedAccounts j "peepeth.com" .standard)) ∧
      SubjectsMatch .standard (sites "0xAB") (sites "0xab") ∧
      addressesMatch "0xaB" "0xAb" = true ∧
      connectedSubjects (sites "0xAB") .empty "0xaB" .standard =
        connectedSubjects (sites "0xab") .empty "0xAb" .standard := by
  intro account history i j sites
  have record (id : String) {a b : Address} (same : addressesMatch a b = true) :
      (account id a).EqualButCasing (account id b) := ⟨same, rfl⟩
  have equal : i.EqualButCasing j :=
    { permitted := .cons (by decide) (.cons (by decide) .nil)
      accounts := .cons ⟨rfl, record "1" (by decide)⟩ (.cons ⟨rfl, record "2" (by decide)⟩ .nil)
      keyrings := .cons (.cons (by decide) (.cons (by decide) .nil)) .nil
      history := rfl }
  have casing : SubjectsMatch .standard (sites "0xAB") (sites "0xab") :=
    .cons ⟨rfl, .cons (by decide) .nil⟩ .nil
  have same : addressesMatch "0xaB" "0xAb" = true := by decide
  have two := (i.orderConnectedAccounts_perm "peepeth.com" .standard).length_eq
  refine ⟨⟨equal, two.trans (by decide), ?_⟩, casing, same, ?_⟩
  · exact exposure_casing.1 i j equal "peepeth.com" .standard
  · exact exposure_casing.2 .standard _ _ .empty "0xaB" "0xAb" casing same

end WalletView
