/-
# Proofs.Confirmation.Frame — a resolution reads its target and nothing else

Once it is known which request is meant, a resolution reads the message or the first transaction
under its id, the active chain, the preferences and one flag (`ResolutionInputs.AgreeFor`).  Which
request is meant depends on the queue: under a route with a name on what stands under that name,
and otherwise on the latest request.

So a snapshot can be changed in many ways that no resolution of the request sees.  Such a change is
made of edits (`Snapshot.EditAside`), each to one place:

* the slices that no resolution reads, and the flags for other features;
* the messages under other ids, and a typed message that a personal one stands before;
* one more transaction: with another id anywhere, with the request's id behind the first one;
* one more request in the queue, under a new id and no later than the one that is meant, or, where
  the route has a name, whatever stands under other names.

One edit keeps the request and what is read for it, and so does any number of them.
-/
import Mathlib.Logic.Relation
import WalletView.Proofs.Confirmation.Latest
import WalletView.Proofs.Confirmation.Route
import WalletView.Proofs.Map.Sorted

set_option autoImplicit false

namespace WalletView

/-- The same records stand under a name in two lists of entries. -/
def SameUnder {α : Type} (name : String) (entries entries' : List (String × α)) : Prop :=
  ∀ record, (name, record) ∈ entries ↔ (name, record) ∈ entries'

namespace SameUnder

variable {α : Type} {name : String}

theorem sorted_get? {m n : SortedMap α} (same : SameUnder name m.entries n.entries) :
    m.get? name = n.get? name := by
  refine Option.ext fun record => ?_
  rw [SortedMap.get?_eq_some_iff, SortedMap.get?_eq_some_iff]
  exact same record

theorem id_get? {m n : IdMap α} (same : SameUnder name m.entries n.entries) :
    m.get? name = n.get? name := by
  refine Option.ext fun record => ?_
  rw [IdMap.get?_eq_some_iff, IdMap.get?_eq_some_iff]
  exact same record

/-- What is inserted under another name is one such change. -/
theorem sorted_insert {m : SortedMap α} {other : String} (isOther : name ≠ other) (record : α) :
    SameUnder name m.entries (m.insert other record).entries :=
  fun _ => (SortedMap.mem_put_of_ne isOther).symm

end SameUnder

section Held

variable {Hold : Type → Type} [Holding Hold]

/-! ## What is read for a request -/

/-- Two snapshots' inputs agree in what is read for a request with an id. -/
structure ResolutionInputs.AgreeFor (id : String) (i j : ResolutionInputs Hold) : Prop where
  message : i.findMessage? id = j.findMessage? id
  transaction : i.findTransaction? id = j.findTransaction? id
  chain : i.providerConfig.chainId = j.providerConfig.chainId
  preferences : i.preferences = j.preferences
  flag : i.featureFlags.isRedesignedConfirmationsFeatureEnabled =
    j.featureFlags.isRedesignedConfirmationsFeatureEnabled

namespace ResolutionInputs.AgreeFor

variable {id : String} {i j k : ResolutionInputs Hold}

theorem refl (i : ResolutionInputs Hold) : i.AgreeFor id i :=
  ⟨rfl, rfl, rfl, rfl, rfl⟩

theorem trans (first : i.AgreeFor id j) (second : j.AgreeFor id k) : i.AgreeFor id k where
  message := first.message.trans second.message
  transaction := first.transaction.trans second.transaction
  chain := first.chain.trans second.chain
  preferences := first.preferences.trans second.preferences
  flag := first.flag.trans second.flag

end ResolutionInputs.AgreeFor

/-- A request is resolved from what is read for it. -/
theorem resolveApproval_congr {approval : PendingApproval} {i j : ResolutionInputs Hold}
    (agree : i.AgreeFor approval.id j) (config : ResolverConfig) :
    resolveApproval approval i config = resolveApproval approval j config := by
  have gate (kind : ConfirmationKind) : evaluateGate kind i.preferences i.featureFlags =
      evaluateGate kind j.preferences j.featureFlags := by
    simp only [evaluateGate, agree.preferences, agree.flag]
  have message : resolveMessage approval i = resolveMessage approval j := by
    rw [resolveMessage, resolveMessage, agree.message]
  have transaction :
      resolveTransaction approval i config = resolveTransaction approval j config := by
    rw [resolveTransaction, resolveTransaction, agree.transaction, agree.chain]
  simp only [resolveApproval, gate, message, transaction]

/-! ## Edits aside of a target -/

/-- An edit of a snapshot that leaves alone what a route means there, and what is read for it. -/
inductive Snapshot.EditAside (route : Option String) (target : PendingApproval)
    (s : Snapshot Hold) : Snapshot Hold → Prop
  /-- The slices that no resolution reads are replaced. -/
  | unread (subjects : Hold (IdMap Subject)) (subjectMetadata : Hold (IdMap SubjectMetadata))
      (permissionHistory : Hold PermissionHistory) (internalAccounts : Hold InternalAccounts)
      (keyrings : Hold (List KeyringGroup)) (activeTab : Hold ActiveTab)
      (bridge : Hold BridgeState) :
      EditAside route target s
        { s with subjects, subjectMetadata, permissionHistory, internalAccounts, keyrings,
                 activeTab, bridge }
  /-- Flags for other features are set. -/
  | flags (featureFlags : Hold FeatureFlags)
      (sameFlag : (Holding.value featureFlags).isRedesignedConfirmationsFeatureEnabled =
        (Holding.value s.featureFlags).isRedesignedConfirmationsFeatureEnabled) :
      EditAside route target s { s with featureFlags }
  /-- Personal messages under other ids come, go and change. -/
  | personal (unapprovedPersonalMsgs : Hold (SortedMap (Hold SignableMessage)))
      (same : SameUnder target.id (Holding.value s.unapprovedPersonalMsgs).entries
        (Holding.value unapprovedPersonalMsgs).entries) :
      EditAside route target s { s with unapprovedPersonalMsgs }
  /-- So do typed ones. -/
  | typed (unapprovedTypedMessages : Hold (SortedMap (Hold SignableMessage)))
      (same : SameUnder target.id (Holding.value s.unapprovedTypedMessages).entries
        (Holding.value unapprovedTypedMessages).entries) :
      EditAside route target s { s with unapprovedTypedMessages }
  /-- Typed messages under any id do, where a personal one stands under the target's. -/
  | shadowed (unapprovedTypedMessages : Hold (SortedMap (Hold SignableMessage)))
      (message : Hold SignableMessage)
      (stored : (target.id, message) ∈ (Holding.value s.unapprovedPersonalMsgs).entries) :
      EditAside route target s { s with unapprovedTypedMessages }
  /-- A transaction is inserted, not before the first one with the target's id if it has that id
  itself. -/
  | transaction (transactions : Hold (List (Hold TransactionRecord)))
      (before after : List (Hold TransactionRecord)) (record : Hold TransactionRecord)
      (listed : Holding.value s.transactions = before ++ after)
      (inserted : Holding.value transactions = before ++ record :: after)
      (notFirst : (Holding.value record).id = target.id →
        ∃ first ∈ before, (Holding.value first).id = target.id) :
      EditAside route target s { s with transactions }
  /-- Without a name in the route, a request that is no later is queued under a new id. -/
  | queued (pendingApprovals : Hold (IdMap PendingApproval)) (id : String)
      (approval : PendingApproval) (unnamed : route = none ∨ route = some "")
      (fresh : (Holding.value s.pendingApprovals).contains id = false)
      (noLater : approval.time ≤ target.time)
      (inserted : Holding.value pendingApprovals =
        (Holding.value s.pendingApprovals).insert id approval) :
      EditAside route target s { s with pendingApprovals }
  /-- With a name in it, requests under other names come, go and change. -/
  | requests (pendingApprovals : Hold (IdMap PendingApproval)) (name : String)
      (named : route = some name) (isNamed : name ≠ "")
      (same : SameUnder name (Holding.value s.pendingApprovals).entries
        (Holding.value pendingApprovals).entries) :
      EditAside route target s { s with pendingApprovals }

/-- Without a name the latest request is meant. -/
theorem selectTarget_of_unnamed {route : Option String} (unnamed : route = none ∨ route = some "")
    (approvals : IdMap PendingApproval) :
    selectTarget approvals route = latestApproval approvals := by
  rcases unnamed with rfl | rfl
  · rfl
  · simp [selectTarget]

/-- The first transaction with an id stays the first one when another is inserted, unless that has
the id and comes before it. -/
theorem find?_insert_aside {before after : List (Hold TransactionRecord)}
    {record : Hold TransactionRecord} {id : String}
    (notFirst : (Holding.value record).id = id →
      ∃ first ∈ before, (Holding.value first).id = id) :
    (before ++ record :: after).find? (fun t => (Holding.value t).id == id) =
      (before ++ after).find? (fun t => (Holding.value t).id == id) := by
  rw [List.find?_append, List.find?_append]
  by_cases isNamed : (Holding.value record).id = id
  · obtain ⟨first, member, firstNamed⟩ := notFirst isNamed
    have found : (before.find? fun t => (Holding.value t).id == id).isSome = true :=
      List.find?_isSome.2 ⟨first, member, beq_iff_eq.2 firstNamed⟩
    rw [Option.or_of_isSome found, Option.or_of_isSome found]
  · rw [List.find?_cons_of_neg (by simpa using isNamed)]

namespace Snapshot.EditAside

variable {route : Option String} {target : PendingApproval} {s t : Snapshot Hold}

/-- After an edit the route means the same request. -/
theorem selects (edit : EditAside route target s t)
    (selected : selectTarget (Holding.value s.pendingApprovals) route = some target) :
    selectTarget (Holding.value t.pendingApprovals) route = some target := by
  cases edit with
  | unread | flags | personal | typed | shadowed | transaction => exact selected
  | queued pendingApprovals id approval unnamed fresh noLater inserted =>
    rw [selectTarget_of_unnamed unnamed] at selected ⊢
    rw [inserted, latestApproval_insert_of_fresh _ fresh, selected]
    exact if_pos noLater
  | requests pendingApprovals name named isNamed same =>
    subst named
    rw [selectTarget_of_ne isNamed] at selected ⊢
    exact same.id_get?.symm.trans selected

/-- After an edit the same is read for it. -/
theorem agreeFor (edit : EditAside route target s t) :
    s.resolutionInputs.AgreeFor target.id t.resolutionInputs := by
  cases edit with
  | unread | queued | requests => exact .refl _
  | flags featureFlags sameFlag =>
    exact { ResolutionInputs.AgreeFor.refl s.resolutionInputs with flag := sameFlag.symm }
  | personal unapprovedPersonalMsgs same =>
    refine { ResolutionInputs.AgreeFor.refl s.resolutionInputs with message := ?_ }
    exact congrArg (· <|> (Holding.value s.unapprovedTypedMessages).get? target.id)
      same.sorted_get?
  | typed unapprovedTypedMessages same =>
    refine { ResolutionInputs.AgreeFor.refl s.resolutionInputs with message := ?_ }
    exact congrArg ((Holding.value s.unapprovedPersonalMsgs).get? target.id <|> ·)
      same.sorted_get?
  | shadowed unapprovedTypedMessages message stored =>
    refine { ResolutionInputs.AgreeFor.refl s.resolutionInputs with message := ?_ }
    have isPersonal := SortedMap.get?_eq_some_iff.2 stored
    simp [ResolutionInputs.findMessage?, Snapshot.resolutionInputs, isPersonal]
  | transaction transactions before after record listed inserted notFirst =>
    refine { ResolutionInputs.AgreeFor.refl s.resolutionInputs with transaction := ?_ }
    show (Holding.value s.transactions).find? _ = (Holding.value transactions).find? _
    rw [listed, inserted]
    exact (find?_insert_aside notFirst).symm

/-- **After any number of edits** the route means the same request, and the same is read for it. -/
theorem selects_and_agreeFor (edits : Relation.ReflTransGen (EditAside route target) s t)
    (selected : selectTarget (Holding.value s.pendingApprovals) route = some target) :
    selectTarget (Holding.value t.pendingApprovals) route = some target ∧
      s.resolutionInputs.AgreeFor target.id t.resolutionInputs := by
  induction edits with
  | refl => exact ⟨selected, .refl _⟩
  | tail _ edit ih => exact ⟨edit.selects ih.1, ih.2.trans edit.agreeFor⟩

end Snapshot.EditAside

/-- **A resolution reads its target and nothing else**: however a snapshot is edited aside of the
request that a route means in it, the route still means this request, and the whole trace of the
resolution stays what it was.  So what is confirmed in the edited snapshot is the candidate that the
request had before the edits, if it passed the checks then. -/
theorem resolve_editAside {s t : Snapshot Hold} {route : Option String} {target : PendingApproval}
    (selected : selectTarget (Holding.value s.pendingApprovals) route = some target)
    (edits : Relation.ReflTransGen (Snapshot.EditAside route target) s t)
    (config : ResolverConfig) :
    selectTarget (Holding.value t.pendingApprovals) route = some target ∧
      resolve t route config = resolve s route config ∧
      ∀ c, (resolve t route config).confirmation = some c ↔
        IsCandidate s target c ∧ PassesChecks s config c := by
  obtain ⟨stillSelected, agree⟩ := Snapshot.EditAside.selects_and_agreeFor edits selected
  have same : resolve t route config = resolve s route config := by
    rw [resolve, resolve, stillSelected, selected]
    exact (resolveApproval_congr agree config).symm
  refine ⟨stillSelected, same, fun c => ?_⟩
  rw [same, resolve, selected, resolveTarget_confirmation_iff]
  simp only [Option.some.injEq, exists_eq_left']

end Held

/-- A request to sign is still meant, and still resolves to its personal message, when another
request with its time is queued, another message is stored, a typed one comes under its own id, and
the wallet is opened from another tab.  A request for a transaction that the route names still
resolves to the first transaction with its id when a later request is dropped from the queue and a
second transaction with that id is listed. -/
theorem resolve_editAside_both :
    let request : PendingApproval := ⟨"1", .personalSign, 5, none⟩
    let transfer : PendingApproval := ⟨"2", .transaction, 5, none⟩
    let later : PendingApproval := ⟨"3", .ethSign, 9, none⟩
    let message (id : String) : Shared SignableMessage := ⟨20, ⟨id, .empty⟩⟩
    let record (token : Nat) : Shared TransactionRecord :=
      ⟨token, ⟨"2", ProviderConfig.empty.chainId, .unapproved, none, none⟩⟩
    let blank : Snapshot Shared :=
      { (Snapshot.empty.share ⟨0⟩).1 with
        preferences := ⟨15, ⟨true⟩⟩
        featureFlags := ⟨16, ⟨true, false, ⟨false⟩⟩⟩ }
    let s : Snapshot Shared :=
      { blank with
        pendingApprovals := ⟨21, .insert .empty "1" request⟩
        unapprovedPersonalMsgs := ⟨22, .insert .empty "1" (message "1")⟩ }
    let t : Snapshot Shared :=
      { s with
        pendingApprovals := ⟨31, s.pendingApprovals.value.insert "2" transfer⟩
        unapprovedPersonalMsgs := ⟨32, s.unapprovedPersonalMsgs.value.insert "0" (message "0")⟩
        unapprovedTypedMessages := ⟨33, .insert .empty "1" (message "1")⟩
        activeTab := ⟨34, ⟨some "https://a.example", none, none, none⟩⟩ }
    let u : Snapshot Shared :=
      { blank with
        pendingApprovals := ⟨41, (IdMap.insert .empty "2" transfer).insert "3" later⟩
        transactions := ⟨42, [record 43]⟩ }
    let v : Snapshot Shared :=
      { u with
        pendingApprovals := ⟨51, .insert .empty "2" transfer⟩
        transactions := ⟨52, [record 43, record 53]⟩ }
    (selectTarget t.pendingApprovals.value none = some request ∧
        resolve t none .standard = .resolved (.signature (message "1"))) ∧
      selectTarget v.pendingApprovals.value (some "2") = some transfer ∧
        resolve v (some "2") .standard = .resolved (.transaction (record 43)) := by
  intro request transfer later message record blank s t u v
  constructor
  · have before : resolve s none .standard = .resolved (.signature (message "1")) := rfl
    have stored : ("1", message "1") ∈ t.unapprovedPersonalMsgs.value.entries :=
      (SortedMap.mem_put_of_ne (by decide)).2 List.mem_cons_self
    have edits : Relation.ReflTransGen (Snapshot.EditAside none request) s t :=
      .head (.queued t.pendingApprovals "2" transfer (.inl rfl) rfl (by decide) rfl) <|
      .head (.personal t.unapprovedPersonalMsgs (.sorted_insert (by decide) _)) <|
      .head (.shadowed t.unapprovedTypedMessages (message "1") stored) <|
      .single (.unread _ _ _ _ _ t.activeTab _)
    obtain ⟨stillSelected, same, -⟩ := resolve_editAside rfl edits .standard
    exact ⟨stillSelected, same.trans before⟩
  · have before : resolve u (some "2") .standard = .resolved (.transaction (record 43)) := rfl
    have kept : SameUnder "2" u.pendingApprovals.value.entries v.pendingApprovals.value.entries :=
      fun request => by simp [u, v, IdMap.insert, IdMap.put, IdMap.empty]
    have edits : Relation.ReflTransGen (Snapshot.EditAside (some "2") transfer) u v :=
      .head (.requests v.pendingApprovals "2" rfl (by decide) kept) <|
      .single (.transaction v.transactions [record 43] [] (record 53) rfl rfl
        fun _ => ⟨record 43, List.mem_cons_self, rfl⟩)
    obtain ⟨stillSelected, same, -⟩ := resolve_editAside rfl edits .standard
    exact ⟨stillSelected, same.trans before⟩

end WalletView
