/-
# Proofs.Confirmation.Resolution — what resolves is what the checks let through

The resolution asks its questions in a cascade; the checks look at a trace that is there already.
Both come to one: a request resolves to its *candidate*, the record that stands under its id, just
when the trace with that record passes every check (`resolveApproval_cases`).  What the checks do
not see is the id inside a message, which need not be the one that it is stored under.
-/
import WalletView.Confirmation.Checks
import WalletView.Wallet.Slice

set_option autoImplicit false

namespace WalletView

variable {Hold : Type → Type} [Holding Hold]

/-! ## Candidates -/

/-- The record that a request is about.  A request to sign is about the message under its id, a
typed one only where there is no personal one; a request for a transaction is about the first one
with its id; other requests are about nothing. -/
inductive IsCandidate (s : Snapshot Hold) (approval : PendingApproval) : Confirmation Hold → Prop
  | personal (message : Hold SignableMessage)
      (signs : approval.kind = .personalSign ∨ approval.kind = .ethSignTypedData)
      (stored : (Holding.value s.unapprovedPersonalMsgs).get? approval.id = some message) :
      IsCandidate s approval (.signature message)
  | typed (message : Hold SignableMessage)
      (signs : approval.kind = .personalSign ∨ approval.kind = .ethSignTypedData)
      (noPersonal : (Holding.value s.unapprovedPersonalMsgs).get? approval.id = none)
      (stored : (Holding.value s.unapprovedTypedMessages).get? approval.id = some message) :
      IsCandidate s approval (.signature message)
  | transaction (record : Hold TransactionRecord) (before after : List (Hold TransactionRecord))
      (transacts : approval.kind = .transaction)
      (listed : Holding.value s.transactions = before ++ record :: after)
      (isNamed : (Holding.value record).id = approval.id)
      (isFirst : ∀ other ∈ before, (Holding.value other).id ≠ approval.id) :
      IsCandidate s approval (.transaction record)

/-- The trace with a record passes every check that looks at the record. -/
structure PassesChecks (s : Snapshot Hold) (config : ResolverConfig) (c : Confirmation Hold) :
    Prop where
  userGate : (ResolutionTrace.resolved c).respectsUserGate (Holding.value s.preferences) = true
  noSiwe : (ResolutionTrace.resolved c).hasNoSiwe = true
  actionable : (ResolutionTrace.resolved c).isActionable (Holding.value s.providerConfig)
    (Holding.value s.featureFlags) config = true

/-- The record that the resolution of a request looks up. -/
def candidate? (s : Snapshot Hold) (approval : PendingApproval) : Option (Confirmation Hold) :=
  match ConfirmationKind.ofApproval approval.kind with
  | .signature => (s.resolutionInputs.findMessage? approval.id).map .signature
  | .transaction => (s.resolutionInputs.findTransaction? approval.id).map .transaction
  | .unsupported => none

theorem ofApproval_eq_signature_iff (kind : ApprovalType) :
    ConfirmationKind.ofApproval kind = .signature ↔
      kind = .personalSign ∨ kind = .ethSignTypedData := by
  cases kind <;> simp [ConfirmationKind.ofApproval]

theorem ofApproval_eq_transaction_iff (kind : ApprovalType) :
    ConfirmationKind.ofApproval kind = .transaction ↔ kind = .transaction := by
  cases kind <;> simp [ConfirmationKind.ofApproval]

theorem isCandidate_iff {s : Snapshot Hold} {approval : PendingApproval} {c : Confirmation Hold} :
    IsCandidate s approval c ↔ candidate? s approval = some c := by
  unfold candidate?
  constructor
  · rintro (⟨message, signs, stored⟩ | ⟨message, signs, noPersonal, stored⟩ |
      ⟨record, before, after, transacts, listed, isNamed, isFirst⟩)
    · rw [(ofApproval_eq_signature_iff _).2 signs]
      simp [ResolutionInputs.findMessage?, Snapshot.resolutionInputs, stored]
    · rw [(ofApproval_eq_signature_iff _).2 signs]
      simp [ResolutionInputs.findMessage?, Snapshot.resolutionInputs, noPersonal, stored]
    · rw [(ofApproval_eq_transaction_iff _).2 transacts]
      have found : s.resolutionInputs.findTransaction? approval.id = some record := by
        refine List.find?_eq_some_iff_append.2 ⟨by simpa using isNamed, before, after, listed, ?_⟩
        intro other member
        simpa using isFirst other member
      simp only [found, Option.map_some]
  · intro found
    cases kind : ConfirmationKind.ofApproval approval.kind with
    | signature =>
      rw [kind] at found
      obtain ⟨message, isFound, rfl⟩ := Option.map_eq_some_iff.1 found
      have signs := (ofApproval_eq_signature_iff _).1 kind
      unfold ResolutionInputs.findMessage? at isFound
      cases personal : s.resolutionInputs.personalMessages.get? approval.id with
      | some first =>
        rw [personal] at isFound
        cases isFound
        exact .personal message signs personal
      | none =>
        rw [personal] at isFound
        exact .typed message signs personal isFound
    | transaction =>
      rw [kind] at found
      obtain ⟨record, isFound, rfl⟩ := Option.map_eq_some_iff.1 found
      obtain ⟨isNamed, before, after, listed, isFirst⟩ := List.find?_eq_some_iff_append.1 isFound
      refine .transaction record before after ((ofApproval_eq_transaction_iff _).1 kind) listed
        (by simpa using isNamed) fun other member => ?_
      simpa using isFirst other member
    | unsupported =>
      rw [kind] at found
      cases found

section Candidate

variable {s : Snapshot Hold} {approval : PendingApproval}

theorem IsCandidate.signs {message : Hold SignableMessage}
    (isCandidate : IsCandidate s approval (.signature message)) :
    approval.kind = .personalSign ∨ approval.kind = .ethSignTypedData := by
  cases isCandidate with
  | personal _ signs | typed _ signs => exact signs

theorem IsCandidate.transacts {record : Hold TransactionRecord}
    (isCandidate : IsCandidate s approval (.transaction record)) :
    approval.kind = .transaction := by
  cases isCandidate with
  | transaction _ _ _ transacts => exact transacts

/-- The candidate of a request to sign is the message that is found. -/
theorem isCandidate_signature_iff
    (signs : approval.kind = .personalSign ∨ approval.kind = .ethSignTypedData)
    {message : Hold SignableMessage} :
    IsCandidate s approval (.signature message) ↔
      s.resolutionInputs.findMessage? approval.id = some message := by
  rw [isCandidate_iff, candidate?, (ofApproval_eq_signature_iff _).2 signs]
  simp [Option.map_eq_some_iff]

/-- The candidate of a request for a transaction is the transaction that is found. -/
theorem isCandidate_transaction_iff (transacts : approval.kind = .transaction)
    {record : Hold TransactionRecord} :
    IsCandidate s approval (.transaction record) ↔
      s.resolutionInputs.findTransaction? approval.id = some record := by
  rw [isCandidate_iff, candidate?, (ofApproval_eq_transaction_iff _).2 transacts]
  simp [Option.map_eq_some_iff]

end Candidate

/-! ## The checks, read off a record -/

theorem passesChecks_signature_iff {s : Snapshot Hold} {config : ResolverConfig}
    {message : Hold SignableMessage} :
    PassesChecks s config (.signature message) ↔
      (Holding.value s.preferences).redesignedConfirmationsEnabled = true ∧
        (Holding.value message).isSiwe = false := by
  constructor
  · rintro ⟨userGate, noSiwe, -⟩
    exact ⟨by simpa [ResolutionTrace.respectsUserGate, ResolutionTrace.resolved] using userGate,
      by simpa [ResolutionTrace.hasNoSiwe, ResolutionTrace.resolved] using noSiwe⟩
  · rintro ⟨enabled, noSiwe⟩
    exact ⟨by simp [ResolutionTrace.respectsUserGate, enabled],
      by simp [ResolutionTrace.hasNoSiwe, ResolutionTrace.resolved, noSiwe], rfl⟩

theorem passesChecks_transaction_iff {s : Snapshot Hold} {config : ResolverConfig}
    {record : Hold TransactionRecord} :
    PassesChecks s config (.transaction record) ↔
      (Holding.value s.preferences).redesignedConfirmationsEnabled = true ∧
        (Holding.value s.featureFlags).isRedesignedConfirmationsFeatureEnabled = true ∧
        (Holding.value record).chainId = (Holding.value s.providerConfig).chainId ∧
        (Holding.value record).status = .unapproved ∧
        config.excludes (Holding.value record).kind = false := by
  constructor
  · rintro ⟨userGate, -, actionable⟩
    have enabled : (Holding.value s.preferences).redesignedConfirmationsEnabled = true := by
      simpa [ResolutionTrace.respectsUserGate, ResolutionTrace.resolved] using userGate
    simp only [ResolutionTrace.isActionable, ResolutionTrace.resolved, Bool.and_eq_true,
      beq_iff_eq, Bool.not_eq_true'] at actionable
    obtain ⟨⟨⟨status, chain⟩, notExcluded⟩, flag⟩ := actionable
    exact ⟨enabled, flag, chain, status, notExcluded⟩
  · rintro ⟨enabled, flag, chain, status, notExcluded⟩
    exact ⟨by simp [ResolutionTrace.respectsUserGate, enabled], rfl,
      by simp [ResolutionTrace.isActionable, ResolutionTrace.resolved, flag, chain, status,
        notExcluded]⟩

/-! ## The cascade -/

/-- A request that the gate lets through as a signature resolves to its message, unless there is
none or it is a sign-in message. -/
theorem resolveMessage_cases (approval : PendingApproval) (inputs : ResolutionInputs Hold) :
    (∃ message, inputs.findMessage? approval.id = some message ∧
        (Holding.value message).isSiwe = false ∧
        resolveMessage approval inputs = .resolved (.signature message)) ∨
      ∃ outcome, outcome ≠ .resolved ∧
        resolveMessage approval inputs = .absent approval.id .signature outcome ∧
        ∀ message, inputs.findMessage? approval.id = some message →
          (Holding.value message).isSiwe = true := by
  unfold resolveMessage
  cases found : inputs.findMessage? approval.id with
  | none => exact .inr ⟨.messageMissing, by decide, rfl, nofun⟩
  | some message =>
    cases siwe : (Holding.value message).isSiwe with
    | true =>
      refine .inr ⟨.siweExcluded, by decide, by simp only [siwe, if_true], ?_⟩
      rintro _ ⟨⟩
      exact siwe
    | false => exact .inl ⟨message, rfl, siwe, by simp only [siwe, Bool.false_eq_true, if_false]⟩

/-- A request that the gate lets through as a transaction resolves to its transaction, unless there
is none or it is not to be acted upon. -/
theorem resolveTransaction_cases (approval : PendingApproval) (inputs : ResolutionInputs Hold)
    (config : ResolverConfig) :
    (∃ record, inputs.findTransaction? approval.id = some record ∧
        (Holding.value record).chainId = inputs.providerConfig.chainId ∧
        (Holding.value record).status = .unapproved ∧
        config.excludes (Holding.value record).kind = false ∧
        resolveTransaction approval inputs config = .resolved (.transaction record)) ∨
      ∃ outcome, outcome ≠ .resolved ∧
        resolveTransaction approval inputs config = .absent approval.id .transaction outcome ∧
        ∀ record, inputs.findTransaction? approval.id = some record →
          ¬((Holding.value record).chainId = inputs.providerConfig.chainId ∧
            (Holding.value record).status = .unapproved ∧
            config.excludes (Holding.value record).kind = false) := by
  unfold resolveTransaction
  cases found : inputs.findTransaction? approval.id with
  | none => exact .inr ⟨.transactionMissing, by decide, rfl, nofun⟩
  | some record =>
    by_cases chain : (Holding.value record).chainId = inputs.providerConfig.chainId
    · by_cases status : (Holding.value record).status = .unapproved
      · cases excluded : config.excludes (Holding.value record).kind with
        | false =>
          exact .inl ⟨record, rfl, chain, status, excluded, by simp [chain, status, excluded]⟩
        | true =>
          refine .inr ⟨.excludedTransactionType, by decide, by simp [chain, status, excluded], ?_⟩
          rintro _ ⟨⟩ ⟨-, -, notExcluded⟩
          exact absurd (excluded.symm.trans notExcluded) (by decide)
      · refine .inr ⟨.notUnapproved, by decide, by simp [chain, status], ?_⟩
        rintro _ ⟨⟩ ⟨-, isUnapproved, -⟩
        exact status isUnapproved
    · refine .inr ⟨.chainMismatch, by decide, by simp [chain], ?_⟩
      rintro _ ⟨⟩ ⟨onChain, -, -⟩
      exact chain onChain

/-- **A request resolves to its candidate if that passes the checks, and is absent otherwise.** -/
theorem resolveApproval_cases (s : Snapshot Hold) (approval : PendingApproval)
    (config : ResolverConfig) :
    (∃ c, candidate? s approval = some c ∧ PassesChecks s config c ∧
        resolveApproval approval s.resolutionInputs config = .resolved c) ∨
      ∃ outcome, outcome ≠ .resolved ∧
        resolveApproval approval s.resolutionInputs config =
          .absent approval.id (.ofApproval approval.kind) outcome ∧
        ∀ c, candidate? s approval = some c → ¬PassesChecks s config c := by
  unfold resolveApproval candidate?
  cases enabled : (Holding.value s.preferences).redesignedConfirmationsEnabled with
  | false =>
    refine .inr ⟨.gated .userPreferenceDisabled, by decide, ?_, fun c _ passes => ?_⟩
    · simp [evaluateGate, Snapshot.resolutionInputs, enabled]
    · have userGate := passes.userGate
      simp [ResolutionTrace.respectsUserGate, ResolutionTrace.resolved, enabled] at userGate
  | true =>
    cases kind : ConfirmationKind.ofApproval approval.kind with
    | signature =>
      have allowed : evaluateGate .signature s.resolutionInputs.preferences
          s.resolutionInputs.featureFlags = .allowed := by
        simp [evaluateGate, Snapshot.resolutionInputs, enabled]
      simp only [allowed]
      rcases resolveMessage_cases approval s.resolutionInputs with
        ⟨message, found, noSiwe, resolved⟩ | ⟨outcome, unresolved, absent, siwe⟩
      · refine .inl ⟨.signature message, by rw [found]; rfl, ?_, resolved⟩
        exact passesChecks_signature_iff.2 ⟨enabled, noSiwe⟩
      · refine .inr ⟨outcome, unresolved, absent, fun c found passes => ?_⟩
        obtain ⟨message, isFound, rfl⟩ := Option.map_eq_some_iff.1 found
        have noSiwe := (passesChecks_signature_iff.1 passes).2
        rw [siwe message isFound] at noSiwe
        cases noSiwe
    | transaction =>
      cases flag : (Holding.value s.featureFlags).isRedesignedConfirmationsFeatureEnabled with
      | false =>
        refine .inr ⟨.gated .developerFeatureDisabled, by decide, ?_, fun c found passes => ?_⟩
        · simp [evaluateGate, Snapshot.resolutionInputs, enabled, flag]
        · obtain ⟨record, isFound, rfl⟩ := Option.map_eq_some_iff.1 found
          have isOn := (passesChecks_transaction_iff.1 passes).2.1
          rw [flag] at isOn
          cases isOn
      | true =>
        have allowed : evaluateGate .transaction s.resolutionInputs.preferences
            s.resolutionInputs.featureFlags = .allowed := by
          simp [evaluateGate, Snapshot.resolutionInputs, enabled, flag]
        simp only [allowed]
        rcases resolveTransaction_cases approval s.resolutionInputs config with
          ⟨record, found, chain, status, notExcluded, resolved⟩ |
            ⟨outcome, unresolved, absent, notActionable⟩
        · refine .inl ⟨.transaction record, by rw [found]; rfl, ?_, resolved⟩
          exact passesChecks_transaction_iff.2 ⟨enabled, flag, chain, status, notExcluded⟩
        · refine .inr ⟨outcome, unresolved, absent, fun c found passes => ?_⟩
          obtain ⟨record, isFound, rfl⟩ := Option.map_eq_some_iff.1 found
          exact notActionable record isFound (passesChecks_transaction_iff.1 passes).2.2
    | unsupported =>
      refine .inr ⟨.gated .unsupportedType, by decide, ?_, nofun⟩
      simp [evaluateGate, Snapshot.resolutionInputs, enabled]

/-! ## Resolution and the checks -/

section Target

variable (s : Snapshot Hold) (target : Option PendingApproval) (config : ResolverConfig)

/-- A target resolves to a record just when that is its candidate and passes the checks. -/
theorem resolveTarget_confirmation_iff (c : Confirmation Hold) :
    (resolveTarget target s.resolutionInputs config).confirmation = some c ↔
      ∃ approval, target = some approval ∧ IsCandidate s approval c ∧ PassesChecks s config c := by
  cases target with
  | none => exact ⟨nofun, nofun⟩
  | some approval =>
    simp only [Option.some.injEq, exists_eq_left', isCandidate_iff]
    show (resolveApproval approval s.resolutionInputs config).confirmation = some c ↔ _
    rcases resolveApproval_cases s approval config with
      ⟨c', found, passes, resolved⟩ | ⟨outcome, _, absent, fails⟩
    · rw [resolved]
      constructor
      · rintro ⟨⟩
        exact ⟨found, passes⟩
      · rintro ⟨found', _⟩
        exact found.symm.trans found'
    · rw [absent]
      exact ⟨nofun, fun ⟨found, passes⟩ => absurd passes (fails c found)⟩

/-- A trace that carries a record is the resolved trace of that record. -/
theorem resolveTarget_eq_resolved {c : Confirmation Hold}
    (carries : (resolveTarget target s.resolutionInputs config).confirmation = some c) :
    resolveTarget target s.resolutionInputs config = .resolved c := by
  cases target with
  | none => cases carries
  | some approval =>
    change (resolveApproval approval s.resolutionInputs config).confirmation = some c at carries
    show resolveApproval approval s.resolutionInputs config = _
    rcases resolveApproval_cases s approval config with
      ⟨c', _, _, resolved⟩ | ⟨outcome, _, absent, _⟩
    · rw [resolved] at carries ⊢
      cases carries
      rfl
    · rw [absent] at carries
      cases carries

/-- A trace of a target without a record is an absent one with the target's id and kind. -/
theorem resolveTarget_eq_absent {approval : PendingApproval}
    (carriesNone :
      (resolveTarget (some approval) s.resolutionInputs config).confirmation = none) :
    ∃ outcome, outcome ≠ .resolved ∧ resolveTarget (some approval) s.resolutionInputs config =
      .absent approval.id (.ofApproval approval.kind) outcome := by
  rcases resolveApproval_cases s approval config with
    ⟨c, _, _, resolved⟩ | ⟨outcome, unresolved, absent, _⟩
  · change (resolveApproval approval s.resolutionInputs config).confirmation = none at carriesNone
    rw [resolved] at carriesNone
    cases carriesNone
  · exact ⟨outcome, unresolved, absent⟩

/-- The outcome is `resolved` just when the trace carries a record. -/
theorem resolveTarget_outcome_iff :
    (resolveTarget target s.resolutionInputs config).outcome = .resolved ↔
      (resolveTarget target s.resolutionInputs config).confirmation.isSome = true := by
  cases carried : (resolveTarget target s.resolutionInputs config).confirmation with
  | some c =>
    rw [resolveTarget_eq_resolved s target config carried]
    exact ⟨fun _ => rfl, fun _ => rfl⟩
  | none =>
    cases target with
    | none => exact ⟨nofun, nofun⟩
    | some approval =>
      obtain ⟨outcome, unresolved, absent⟩ := resolveTarget_eq_absent s config carried
      rw [absent]
      exact ⟨fun resolved => absurd resolved unresolved, nofun⟩

/-- The record has the target's id, except for a message that is stored under that id but has
another. -/
theorem resolveTarget_matchesTarget_iff :
    (resolveTarget target s.resolutionInputs config).matchesTarget target = false ↔
      ∃ approval message, target = some approval ∧
        resolveTarget target s.resolutionInputs config = .resolved (.signature message) ∧
        (Holding.value message).id ≠ approval.id := by
  constructor
  · intro mismatch
    unfold ResolutionTrace.matchesTarget at mismatch
    cases carried : (resolveTarget target s.resolutionInputs config).confirmation with
    | none =>
      rw [carried] at mismatch
      cases mismatch
    | some c =>
      obtain ⟨approval, rfl, isCandidate, _⟩ :=
        (resolveTarget_confirmation_iff s target config c).1 carried
      rw [carried] at mismatch
      have different : c.id ≠ approval.id := by simpa using mismatch
      cases c with
      | signature message =>
        exact ⟨approval, message, rfl, resolveTarget_eq_resolved s _ config carried, different⟩
      | transaction record =>
        cases isCandidate with
        | transaction _ before after transacts listed isNamed isFirst =>
          exact absurd isNamed different
  · rintro ⟨approval, message, rfl, resolved, different⟩
    rw [resolved]
    simpa [ResolutionTrace.matchesTarget, ResolutionTrace.resolved, Confirmation.id] using different

end Target

/-- **What resolves is what the checks let through.**  Of the trace of a route in a snapshot, and of
the request that the route means:

* the trace carries a record just when there is a request of which this is the candidate and the
  trace with the candidate passes the checks; the trace is that one then;
* the outcome is `resolved` just when there is a record;
* a trace without a record has the id and the kind of the request, and if there is no request it
  is the one that says so;
* the record has the id of the request, except for a message that is stored under that id but has
  another. -/
theorem resolve_checks (s : Snapshot Hold) (route : Option String) (config : ResolverConfig) :
    let target := selectTarget (Holding.value s.pendingApprovals) route
    let trace := resolve s route config
    (∀ c, trace.confirmation = some c ↔
      ∃ approval, target = some approval ∧ IsCandidate s approval c ∧ PassesChecks s config c) ∧
    (∀ c, trace.confirmation = some c → trace = .resolved c) ∧
    (trace.outcome = .resolved ↔ trace.confirmation.isSome = true) ∧
    (∀ approval, target = some approval → trace.confirmation = none →
      ∃ outcome, trace = .absent approval.id (.ofApproval approval.kind) outcome) ∧
    (target = none → trace = .noTarget) ∧
    (trace.matchesTarget target = false ↔
      ∃ approval message, target = some approval ∧ trace = .resolved (.signature message) ∧
        (Holding.value message).id ≠ approval.id) := by
  intro target trace
  refine ⟨resolveTarget_confirmation_iff s target config,
    fun c => resolveTarget_eq_resolved s target config, resolveTarget_outcome_iff s target config,
    ?_, ?_, resolveTarget_matchesTarget_iff s target config⟩
  · intro approval isTarget carriesNone
    change (resolveTarget target s.resolutionInputs config).confirmation = none at carriesNone
    show ∃ outcome, resolveTarget target s.resolutionInputs config = _
    rw [isTarget] at carriesNone ⊢
    obtain ⟨outcome, _, absent⟩ := resolveTarget_eq_absent s config carriesNone
    exact ⟨outcome, absent⟩
  · intro noTarget
    show resolveTarget target s.resolutionInputs config = _
    rw [noTarget]
    rfl

/-- A message that is stored under the request's id but has another does resolve. -/
theorem resolve_checks_misfiled :
    let request : PendingApproval := ⟨"1", .personalSign, 0, none⟩
    let message : Shared SignableMessage := ⟨20, ⟨"2", .empty⟩⟩
    let s : Snapshot Shared :=
      { (Snapshot.empty.share ⟨0⟩).1 with
        pendingApprovals := ⟨21, .insert .empty "1" request⟩
        unapprovedPersonalMsgs := ⟨22, .insert .empty "1" message⟩
        preferences := ⟨23, ⟨true⟩⟩ }
    (resolve s none .standard).confirmation = some (.signature message) ∧
      (resolve s none .standard).matchesTarget (some request) = false := by
  intro request message s
  obtain ⟨carries, whole, _, _, _, mismatch⟩ := resolve_checks s none .standard
  have confirmed : (resolve s none .standard).confirmation = some (.signature message) := by
    refine (carries _).2 ⟨request, rfl, .personal message (.inl rfl) rfl, ?_⟩
    exact passesChecks_signature_iff.2 ⟨rfl, rfl⟩
  refine ⟨confirmed, mismatch.2 ⟨request, message, rfl, whole _ confirmed, ?_⟩⟩
  show "2" ≠ "1"
  decide

end WalletView
