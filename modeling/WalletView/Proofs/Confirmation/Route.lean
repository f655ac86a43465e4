/-
# Proofs.Confirmation.Route — what a route with a name leads to

A route names the request that stands *under* that name in the queue, and a request to sign is about
the message that stands under the request's id.  Neither lookup reads the id in the record that it
finds; only transactions are found by the id in them.  So a name leads to a record with that id where
requests and messages are filed under their ids, and nothing but their filing can lead elsewhere.

A snapshot is read with its records under whatever keys the document has.  The last theorem here is
about a document that files a request under another name, and what a route with that name resolves
to.
-/
import WalletView.Proofs.Confirmation.Resolution
import WalletView.Proofs.Map.Id

set_option autoImplicit false

namespace WalletView

section Held

variable {Hold : Type → Type} [Holding Hold]

/-- What stands under a name has that name as its id: the request in the queue, and the message. -/
structure Snapshot.FilesRight (s : Snapshot Hold) (name : String) : Prop where
  request : ∀ approval, (Holding.value s.pendingApprovals).get? name = some approval →
    approval.id = name
  message : ∀ message, s.resolutionInputs.findMessage? name = some message →
    (Holding.value message).id = name

/-- A name means the request under it. -/
theorem selectTarget_of_ne {name : String} (isNamed : name ≠ "")
    (approvals : IdMap PendingApproval) :
    selectTarget approvals (some name) = approvals.get? name :=
  if_neg isNamed

/-- A candidate has the id of its request, or it is the message that stands under that id. -/
theorem IsCandidate.id_eq_or {s : Snapshot Hold} {approval : PendingApproval}
    {c : Confirmation Hold} (isCandidate : IsCandidate s approval c) :
    c.id = approval.id ∨
      ∃ message, c = .signature message ∧
        s.resolutionInputs.findMessage? approval.id = some message := by
  cases c with
  | signature message =>
    exact .inr ⟨message, rfl, (isCandidate_signature_iff isCandidate.signs).1 isCandidate⟩
  | transaction record =>
    have found := (isCandidate_transaction_iff isCandidate.transacts).1 isCandidate
    obtain ⟨isNamed, -⟩ := List.find?_eq_some_iff_append.1 found
    exact .inl (beq_iff_eq.1 isNamed)

/-- Where a request and its message are filed right, the candidate has the name that they are filed
under. -/
theorem IsCandidate.id_eq {s : Snapshot Hold} {name : String} {approval : PendingApproval}
    {c : Confirmation Hold} (filesRight : s.FilesRight name)
    (queued : (Holding.value s.pendingApprovals).get? name = some approval)
    (isCandidate : IsCandidate s approval c) : c.id = name := by
  have requested : approval.id = name := filesRight.request approval queued
  rcases isCandidate.id_eq_or with same | ⟨message, rfl, stored⟩
  · exact same.trans requested
  · rw [requested] at stored
    exact filesRight.message message stored

/-- **A route with a name leads to what is filed under that name.**  It resolves to the candidate of
the request under the name if that passes the checks, and to nothing if no request stands there.
Where the request and the message under the name have it as their id, the record that is given has
this id, and so has a request in the queue; if no request in the queue has it, nothing is given. -/
theorem resolve_named (s : Snapshot Hold) {name : String} (isNamed : name ≠ "")
    (config : ResolverConfig) :
    let queue := Holding.value s.pendingApprovals
    let given := (resolve s (some name) config).confirmation
    (∀ c, given = some c ↔ ∃ approval, queue.get? name = some approval ∧
        IsCandidate s approval c ∧ PassesChecks s config c) ∧
      (queue.get? name = none → given = none) ∧
      (s.FilesRight name →
        (∀ c, given = some c → c.id = name ∧ ∃ approval ∈ queue.values, approval.id = name) ∧
          ((∀ approval ∈ queue.values, approval.id ≠ name) → given = none)) := by
  intro queue given
  have leads (c : Confirmation Hold) : given = some c ↔
      ∃ approval, queue.get? name = some approval ∧
        IsCandidate s approval c ∧ PassesChecks s config c := by
    rw [← selectTarget_of_ne isNamed]
    exact resolveTarget_confirmation_iff s _ config c
  have rightly (filesRight : s.FilesRight name) (c : Confirmation Hold) (isGiven : given = some c) :
      c.id = name ∧ ∃ approval ∈ queue.values, approval.id = name := by
    obtain ⟨approval, queued, isCandidate, -⟩ := (leads c).1 isGiven
    have isQueued : approval ∈ queue.values := IdMap.mem_values_of_get? queued
    exact ⟨isCandidate.id_eq filesRight queued, approval, isQueued,
      filesRight.request approval queued⟩
  refine ⟨leads, fun noRequest => ?_, fun filesRight => ⟨rightly filesRight, fun noId => ?_⟩⟩
  · refine Option.eq_none_iff_forall_not_mem.2 fun c isGiven => ?_
    obtain ⟨approval, queued, -⟩ := (leads c).1 isGiven
    rw [noRequest] at queued
    cases queued
  · refine Option.eq_none_iff_forall_not_mem.2 fun c isGiven => ?_
    obtain ⟨-, approval, isQueued, hasId⟩ := rightly filesRight c isGiven
    exact noId approval isQueued hasId

end Held

/-- A request to sign and its message, both filed under their id, and a route to them. -/
theorem resolve_named_message :
    let request : PendingApproval := ⟨"1", .personalSign, 0, none⟩
    let message : Shared SignableMessage := ⟨20, ⟨"1", .empty⟩⟩
    let s : Snapshot Shared :=
      { (Snapshot.empty.share ⟨0⟩).1 with
        pendingApprovals := ⟨21, .insert .empty "1" request⟩
        unapprovedPersonalMsgs := ⟨22, .insert .empty "1" message⟩
        preferences := ⟨23, ⟨true⟩⟩ }
    "1" ≠ "" ∧ s.FilesRight "1" ∧
      (resolve s (some "1") .standard).confirmation = some (.signature message) ∧
      (Confirmation.signature message).id = "1" := by
  intro request message s
  have isNamed : "1" ≠ "" := by decide
  have filesRight : s.FilesRight "1" := by
    constructor
    · rintro _ ⟨⟩
      rfl
    · rintro _ ⟨⟩
      rfl
  obtain ⟨leads, -, rightly⟩ := resolve_named s isNamed .standard
  have given : (resolve s (some "1") .standard).confirmation = some (.signature message) :=
    (leads _).2 ⟨request, rfl, .personal message (.inl rfl) rfl,
      passesChecks_signature_iff.2 ⟨rfl, rfl⟩⟩
  exact ⟨isNamed, filesRight, given, ((rightly filesRight).1 _ given).1⟩

/-- **A document can file a request under another name**, and a route with that name then resolves
to the record of a request with another id, where none in the queue has the id asked for. -/
theorem resolve_named_misfiled :
    ∃ s : Snapshot Plain, Snapshot.parse
        ("\x7b\"pendingApprovals\":\x7b\"r\":\x7b\"id\":\"x\",\"type\":\"transaction\"\x7d\x7d," ++
          "\"transactions\":[\x7b\"id\":\"x\",\"chainId\":\"0x1\"," ++
          "\"status\":\"unapproved\"\x7d]," ++
          "\"providerConfig\":\x7b\"chainId\":\"0x1\"\x7d," ++
          "\"preferences\":\x7b\"redesignedConfirmationsEnabled\":true\x7d," ++
          "\"featureFlags\":\x7b\"isRedesignedConfirmationsFeatureEnabled\":true\x7d\x7d") =
          .ok s ∧
      (∃ c, (resolve s (some "r") .standard).confirmation = some c ∧ c.id = "x") ∧
      ∀ approval ∈ (Holding.value s.pendingApprovals).values, approval.id ≠ "r" := by
  refine (Snapshot.exists_of_parse (p := fun s =>
    (resolve s (some "r") .standard).confirmation.any (·.id == "x") &&
      (Holding.value s.pendingApprovals).values.all (·.id != "r")) ?_).imp
    fun s ⟨read, misled⟩ => ⟨read, ?_⟩
  · decide +kernel
  · obtain ⟨resolves, noneNamed⟩ := Bool.and_eq_true_iff.1 misled
    obtain ⟨c, given, isOther⟩ := (Option.any_eq_true _ _).1 resolves
    refine ⟨⟨c, given, beq_iff_eq.1 isOther⟩, fun approval isQueued => ?_⟩
    exact bne_iff_ne.1 (List.all_eq_true.1 noneNamed approval isQueued)

end WalletView
