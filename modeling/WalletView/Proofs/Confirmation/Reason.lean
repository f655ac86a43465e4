/-
# Proofs.Confirmation.Reason — the reason that is reported is the first there is

A resolution depends on ten conditions (`ResolutionCondition`), some on the settings, some on the
request that is meant and some on the record that it is about.  Each is said here on its own, of the
snapshot, with no regard to the others: a condition on a record holds as well where there is none
(`ResolutionCondition.Holds`).

The resolution asks for them one after another, a request to sign skipping those on transactions and
the other way round.  The outcome names the first that fails (`Asked`), also where several fail: so
it is never a reason that does not apply, and a single condition that fails is enough for nothing to
be confirmed.
-/
import Mathlib.Data.List.Basic
import WalletView.Proofs.Confirmation.Resolution

set_option autoImplicit false

namespace WalletView

/-- What a resolution depends on, in the order in which it asks. -/
inductive ResolutionCondition where
  /-- A request is meant. -/
  | request
  | userPreference
  | supportedType
  | developerFlag
  /-- There is a message that is to be signed. -/
  | message
  /-- There is a transaction that is to be approved. -/
  | transaction
  | noSignIn
  | activeChain
  | unapproved
  | notExcluded
deriving DecidableEq, Repr

namespace ResolutionCondition

def all : List ResolutionCondition :=
  [request, userPreference, supportedType, developerFlag, message, transaction, noSignIn,
    activeChain, unapproved, notExcluded]

theorem mem_all (c : ResolutionCondition) : c ∈ all := by
  cases c <;> decide

/-- The outcome that says that a condition fails. -/
def reason : ResolutionCondition → ResolutionOutcome
  | request => .noTarget
  | userPreference => .gated .userPreferenceDisabled
  | supportedType => .gated .unsupportedType
  | developerFlag => .gated .developerFeatureDisabled
  | message => .messageMissing
  | transaction => .transactionMissing
  | noSignIn => .siweExcluded
  | activeChain => .chainMismatch
  | unapproved => .notUnapproved
  | notExcluded => .excludedTransactionType

/-- The condition whose failing an outcome reports. -/
def ofOutcome? (outcome : ResolutionOutcome) : Option ResolutionCondition :=
  all.find? (·.reason == outcome)

theorem ofOutcome?_reason (c : ResolutionCondition) : ofOutcome? c.reason = some c := by
  cases c <;> decide

/-- An outcome is the reason of one condition at most. -/
theorem reason_injective {c d : ResolutionCondition} (same : c.reason = d.reason) : c = d :=
  Option.some.inj ((ofOutcome?_reason c).symm.trans (same ▸ ofOutcome?_reason d))

theorem reason_ne_resolved (c : ResolutionCondition) : c.reason ≠ .resolved := by
  cases c <;> decide

theorem reason_ne_allowed (c : ResolutionCondition) : c.reason ≠ .gated .allowed := by
  cases c <;> decide

end ResolutionCondition

open ResolutionCondition

/-- The outcome of asking for conditions one after another: the reason of the first that fails, or
`resolved`. -/
inductive Asked (holds : ResolutionCondition → Prop) :
    List ResolutionCondition → ResolutionOutcome → Prop
  | done : Asked holds [] .resolved
  | fails {c : ResolutionCondition} {rest : List ResolutionCondition} (unmet : ¬holds c) :
      Asked holds (c :: rest) c.reason
  | passes {c : ResolutionCondition} {rest : List ResolutionCondition} {outcome : ResolutionOutcome}
      (met : holds c) (further : Asked holds rest outcome) : Asked holds (c :: rest) outcome

namespace Asked

variable {holds : ResolutionCondition → Prop} {conditions : List ResolutionCondition}
  {outcome : ResolutionOutcome}

theorem eq_resolved_iff (asked : Asked holds conditions outcome) :
    outcome = .resolved ↔ ∀ c ∈ conditions, holds c := by
  induction asked with
  | done => exact ⟨fun _ => nofun, fun _ => rfl⟩
  | @fails c rest unmet =>
    exact ⟨fun resolved => absurd resolved c.reason_ne_resolved,
      fun allHold => absurd (allHold c List.mem_cons_self) unmet⟩
  | passes met _ ih => rw [List.forall_mem_cons, ih, and_iff_right met]

/-- The outcome is the reason of the first condition that fails. -/
theorem eq_reason_iff (asked : Asked holds conditions outcome) (d : ResolutionCondition) :
    outcome = d.reason ↔ ∃ before after, conditions = before ++ d :: after ∧
      (∀ c ∈ before, holds c) ∧ ¬holds d := by
  induction asked with
  | done => exact ⟨fun same => absurd same.symm d.reason_ne_resolved, by simp⟩
  | @fails c rest unmet =>
    constructor
    · intro same
      obtain rfl : c = d := ResolutionCondition.reason_injective same
      exact ⟨[], rest, rfl, nofun, unmet⟩
    · rintro ⟨before, after, split, met, -⟩
      -- nothing comes before the failing condition, or the first would hold
      cases before with
      | nil => rw [(List.cons.inj split).1]
      | cons first more =>
        obtain rfl : c = first := (List.cons.inj split).1
        exact absurd (met c List.mem_cons_self) unmet
  | @passes c rest outcome met _ ih =>
    rw [ih]
    constructor
    · rintro ⟨before, after, rfl, metBefore, unmet⟩
      exact ⟨c :: before, after, rfl, List.forall_mem_cons.2 ⟨met, metBefore⟩, unmet⟩
    · rintro ⟨before, after, split, metBefore, unmet⟩
      cases before with
      | nil =>
        obtain rfl : c = d := (List.cons.inj split).1
        exact absurd met unmet
      | cons first more =>
        exact ⟨more, after, (List.cons.inj split).2, (List.forall_mem_cons.1 metBefore).2, unmet⟩

/-- There is no other outcome. -/
theorem eq_resolved_or_reason (asked : Asked holds conditions outcome) :
    outcome = .resolved ∨ ∃ c ∈ conditions, outcome = c.reason := by
  induction asked with
  | done => exact .inl rfl
  | @fails c rest unmet => exact .inr ⟨c, List.mem_cons_self, rfl⟩
  | passes _ _ ih =>
    exact ih.imp_right fun ⟨c, member, same⟩ => ⟨c, List.mem_cons_of_mem _ member, same⟩

end Asked

/-- A type is not excluded if it is none of the listed ones, and no type never is. -/
theorem ResolverConfig.excludes_eq_false_iff (config : ResolverConfig)
    (kind : Option TransactionType) :
    config.excludes kind = false ↔ ∀ k, kind = some k → k ∉ config.excludedTypes := by
  cases kind <;> simp [ResolverConfig.excludes]

section Held

variable {Hold : Type → Type} [Holding Hold]

/-! ## The conditions, each on its own -/

/-- A route means a request in a snapshot. -/
def Snapshot.Means (s : Snapshot Hold) (route : Option String) (approval : PendingApproval) :
    Prop :=
  selectTarget (Holding.value s.pendingApprovals) route = some approval

/-- A condition holds of what a route means in a snapshot, or does not apply to it. -/
def ResolutionCondition.Holds (s : Snapshot Hold) (route : Option String)
    (config : ResolverConfig) : ResolutionCondition → Prop
  | request => ∃ approval, s.Means route approval
  | userPreference => (Holding.value s.preferences).redesignedConfirmationsEnabled = true
  | supportedType => ∀ approval, s.Means route approval →
      approval.kind = .personalSign ∨ approval.kind = .ethSignTypedData ∨
        approval.kind = .transaction
  | developerFlag => ∀ approval, s.Means route approval → approval.kind = .transaction →
      (Holding.value s.featureFlags).isRedesignedConfirmationsFeatureEnabled = true
  | message => ∀ approval, s.Means route approval →
      approval.kind = .personalSign ∨ approval.kind = .ethSignTypedData →
      ∃ message, IsCandidate s approval (.signature message)
  | transaction => ∀ approval, s.Means route approval → approval.kind = .transaction →
      ∃ record, IsCandidate s approval (.transaction record)
  | noSignIn => ∀ approval, s.Means route approval →
      ∀ message, IsCandidate s approval (.signature message) →
      (Holding.value message).isSiwe = false
  | activeChain => ∀ approval, s.Means route approval →
      ∀ record, IsCandidate s approval (.transaction record) →
      (Holding.value record).chainId = (Holding.value s.providerConfig).chainId
  | unapproved => ∀ approval, s.Means route approval →
      ∀ record, IsCandidate s approval (.transaction record) →
      (Holding.value record).status = .unapproved
  | notExcluded => ∀ approval, s.Means route approval →
      ∀ record, IsCandidate s approval (.transaction record) →
      ∀ kind, (Holding.value record).kind = some kind → kind ∉ config.excludedTypes

/-! ## The conditions as they are asked for -/

section Means

variable {s : Snapshot Hold} {route : Option String} {approval : PendingApproval}

/-- A route means one request, so what is said of all that it means is said of that. -/
theorem Snapshot.Means.forall_iff (means : s.Means route approval) {P : PendingApproval → Prop} :
    (∀ approval', s.Means route approval' → P approval') ↔ P approval := by
  refine ⟨fun ofAll => ofAll approval means, fun holds approval' means' => ?_⟩
  rwa [← Option.some.inj (means.symm.trans means')]

variable (means : s.Means route approval)

include means

/-- What is said of all messages that it is about is said of the one that is found. -/
theorem Snapshot.Means.forall_signature_iff
    (signs : approval.kind = .personalSign ∨ approval.kind = .ethSignTypedData)
    {stored : Hold SignableMessage}
    (found : s.resolutionInputs.findMessage? approval.id = some stored)
    {P : Hold SignableMessage → Prop} :
    (∀ approval', s.Means route approval' →
      ∀ message, IsCandidate s approval' (.signature message) → P message) ↔ P stored := by
  rw [means.forall_iff]
  simp [isCandidate_signature_iff signs, found]

/-- What is said of all transactions that it is about is said of the one that is found. -/
theorem Snapshot.Means.forall_transaction_iff (transacts : approval.kind = .transaction)
    {stored : Hold TransactionRecord}
    (found : s.resolutionInputs.findTransaction? approval.id = some stored)
    {P : Hold TransactionRecord → Prop} :
    (∀ approval', s.Means route approval' →
      ∀ record, IsCandidate s approval' (.transaction record) → P record) ↔ P stored := by
  rw [means.forall_iff]
  simp [isCandidate_transaction_iff transacts, found]

variable (config : ResolverConfig)

/-- A request to sign skips the conditions on transactions. -/
theorem holds_of_signs
    (signs : approval.kind = .personalSign ∨ approval.kind = .ethSignTypedData) :
    developerFlag.Holds s route config ∧ transaction.Holds s route config ∧
      activeChain.Holds s route config ∧ unapproved.Holds s route config ∧
      notExcluded.Holds s route config := by
  have noTransaction : approval.kind ≠ .transaction := by
    intro transacts
    rw [transacts] at signs
    exact absurd signs (by decide)
  exact ⟨means.forall_iff.2 fun transacts => absurd transacts noTransaction,
    means.forall_iff.2 fun transacts => absurd transacts noTransaction,
    means.forall_iff.2 fun _ isCandidate => absurd isCandidate.transacts noTransaction,
    means.forall_iff.2 fun _ isCandidate => absurd isCandidate.transacts noTransaction,
    means.forall_iff.2 fun _ isCandidate => absurd isCandidate.transacts noTransaction⟩

/-- A request for a transaction skips those on messages. -/
theorem holds_of_transacts (transacts : approval.kind = .transaction) :
    message.Holds s route config ∧ noSignIn.Holds s route config := by
  have noSignature : ¬(approval.kind = .personalSign ∨ approval.kind = .ethSignTypedData) := by
    rw [transacts]
    decide
  exact ⟨means.forall_iff.2 fun signs => absurd signs noSignature,
    means.forall_iff.2 fun _ isCandidate => absurd isCandidate.signs noSignature⟩

/-- What is asked for once the gate has let a request to sign through. -/
theorem asked_resolveMessage
    (signs : approval.kind = .personalSign ∨ approval.kind = .ethSignTypedData) :
    Asked (·.Holds s route config)
      [message, transaction, noSignIn, activeChain, unapproved, notExcluded]
      (resolveMessage approval s.resolutionInputs).outcome := by
  obtain ⟨-, noTransaction, onChain, isUnapproved, isShown⟩ := holds_of_signs means config signs
  unfold resolveMessage
  cases found : s.resolutionInputs.findMessage? approval.id with
  | none =>
    refine .fails (c := message) fun holds => ?_
    obtain ⟨stored, isCandidate⟩ := means.forall_iff.1 holds signs
    cases found.symm.trans ((isCandidate_signature_iff signs).1 isCandidate)
  | some stored =>
    have isThere : message.Holds s route config :=
      means.forall_iff.2 fun _ => ⟨stored, (isCandidate_signature_iff signs).2 found⟩
    have signIn : noSignIn.Holds s route config ↔ (Holding.value stored).isSiwe = false :=
      means.forall_signature_iff signs found
    refine .passes isThere (.passes noTransaction ?_)
    cases siwe : (Holding.value stored).isSiwe with
    | true =>
      simp only [siwe, if_true]
      exact .fails (c := noSignIn) fun holds => by cases siwe.symm.trans (signIn.1 holds)
    | false =>
      simp only [siwe]
      exact .passes (signIn.2 siwe)
        (.passes onChain (.passes isUnapproved (.passes isShown .done)))

/-- What is asked for once the gate has let a request for a transaction through. -/
theorem asked_resolveTransaction (transacts : approval.kind = .transaction) :
    Asked (·.Holds s route config)
      [message, transaction, noSignIn, activeChain, unapproved, notExcluded]
      (resolveTransaction approval s.resolutionInputs config).outcome := by
  obtain ⟨noMessage, isNoSignIn⟩ := holds_of_transacts means config transacts
  unfold resolveTransaction
  cases found : s.resolutionInputs.findTransaction? approval.id with
  | none =>
    refine .passes noMessage (.fails (c := transaction) fun holds => ?_)
    obtain ⟨stored, isCandidate⟩ := means.forall_iff.1 holds transacts
    cases found.symm.trans ((isCandidate_transaction_iff transacts).1 isCandidate)
  | some stored =>
    have isThere : transaction.Holds s route config :=
      means.forall_iff.2 fun _ => ⟨stored, (isCandidate_transaction_iff transacts).2 found⟩
    have chain : activeChain.Holds s route config ↔
        (Holding.value stored).chainId = s.resolutionInputs.providerConfig.chainId :=
      means.forall_transaction_iff transacts found
    have status : unapproved.Holds s route config ↔ (Holding.value stored).status = .unapproved :=
      means.forall_transaction_iff transacts found
    have kind : notExcluded.Holds s route config ↔
        config.excludes (Holding.value stored).kind = false := by
      rw [config.excludes_eq_false_iff]
      exact means.forall_transaction_iff transacts found
    refine .passes noMessage (.passes isThere (.passes isNoSignIn ?_))
    dsimp only
    by_cases onChain : (Holding.value stored).chainId = s.resolutionInputs.providerConfig.chainId
    case neg =>
      rw [if_pos onChain]
      exact .fails (c := activeChain) fun holds => onChain (chain.1 holds)
    rw [if_neg (not_not_intro onChain)]
    refine .passes (chain.2 onChain) ?_
    by_cases isUnapproved : (Holding.value stored).status = .unapproved
    case neg =>
      rw [if_pos isUnapproved]
      exact .fails (c := unapproved) fun holds => isUnapproved (status.1 holds)
    rw [if_neg (not_not_intro isUnapproved)]
    refine .passes (status.2 isUnapproved) ?_
    cases excluded : config.excludes (Holding.value stored).kind with
    | true => exact .fails (c := notExcluded) fun holds => by cases excluded.symm.trans (kind.1 holds)
    | false => exact .passes (kind.2 excluded) .done

end Means

theorem ofApproval_eq_unsupported_iff (kind : ApprovalType) :
    ConfirmationKind.ofApproval kind = .unsupported ↔
      ¬(kind = .personalSign ∨ kind = .ethSignTypedData ∨ kind = .transaction) := by
  cases kind <;> simp [ConfirmationKind.ofApproval]

/-- What is asked for once it is known which request is meant. -/
theorem asked_resolveApproval {s : Snapshot Hold} {route : Option String}
    {approval : PendingApproval} (means : s.Means route approval) (config : ResolverConfig) :
    Asked (·.Holds s route config)
      [userPreference, supportedType, developerFlag, message, transaction, noSignIn, activeChain,
        unapproved, notExcluded]
      (resolveApproval approval s.resolutionInputs config).outcome := by
  have isSupported : supportedType.Holds s route config ↔ approval.kind = .personalSign ∨
      approval.kind = .ethSignTypedData ∨ approval.kind = .transaction := means.forall_iff
  unfold resolveApproval evaluateGate
  cases enabled : (Holding.value s.preferences).redesignedConfirmationsEnabled with
  | false =>
    simp only [Snapshot.resolutionInputs, enabled]
    exact .fails (c := userPreference) fun holds => by cases enabled.symm.trans holds
  | true =>
    refine .passes enabled ?_
    cases kind : ConfirmationKind.ofApproval approval.kind with
    | signature =>
      have signs := (ofApproval_eq_signature_iff _).1 kind
      simp only [Snapshot.resolutionInputs, enabled]
      refine .passes (isSupported.2 (signs.imp_right .inl)) ?_
      exact .passes (holds_of_signs means config signs).1 (asked_resolveMessage means config signs)
    | transaction =>
      have transacts := (ofApproval_eq_transaction_iff _).1 kind
      refine .passes (isSupported.2 (.inr (.inr transacts))) ?_
      have isOn : developerFlag.Holds s route config ↔
          (Holding.value s.featureFlags).isRedesignedConfirmationsFeatureEnabled = true :=
        means.forall_iff.trans (forall_prop_of_true transacts)
      cases flag : (Holding.value s.featureFlags).isRedesignedConfirmationsFeatureEnabled with
      | false =>
        simp only [Snapshot.resolutionInputs, enabled, flag]
        exact .fails (c := developerFlag) fun holds => by cases flag.symm.trans (isOn.1 holds)
      | true =>
        simp only [Snapshot.resolutionInputs, enabled, flag]
        exact .passes (isOn.2 flag) (asked_resolveTransaction means config transacts)
    | unsupported =>
      simp only [Snapshot.resolutionInputs, enabled]
      exact .fails (c := supportedType) fun holds =>
        (ofApproval_eq_unsupported_iff _).1 kind (isSupported.1 holds)

/-- **The resolution asks for the conditions in their order.** -/
theorem asked_resolve (s : Snapshot Hold) (route : Option String) (config : ResolverConfig) :
    Asked (·.Holds s route config) all (resolve s route config).outcome := by
  unfold resolve
  cases selected : selectTarget (Holding.value s.pendingApprovals) route with
  | none =>
    refine .fails (c := request) fun ⟨approval, means⟩ => ?_
    cases selected.symm.trans means
  | some approval => exact .passes ⟨approval, selected⟩ (asked_resolveApproval selected config)

/-- **The reason that is reported is the first there is.**  Of the resolution of a route in a
snapshot:

* the outcome is `resolved` just when all conditions hold, or do not apply;
* it is the reason of a condition just when this one fails and all that are asked for before hold;
  so it is either `resolved` or the reason of the first condition that fails, and never that the
  gate lets through;
* a condition that fails is enough for nothing to be resolved, and the reason of one that holds is
  not reported. -/
theorem resolve_outcome (s : Snapshot Hold) (route : Option String) (config : ResolverConfig) :
    let trace := resolve s route config
    (trace.outcome = .resolved ↔ ∀ c : ResolutionCondition, c.Holds s route config) ∧
      ((∀ d : ResolutionCondition, trace.outcome = d.reason ↔
          ∃ before after, all = before ++ d :: after ∧
            (∀ c ∈ before, c.Holds s route config) ∧ ¬d.Holds s route config) ∧
        (trace.outcome = .resolved ∨ ∃ d : ResolutionCondition, trace.outcome = d.reason) ∧
        trace.outcome ≠ .gated .allowed) ∧
      (∀ c : ResolutionCondition, ¬c.Holds s route config →
        trace.outcome ≠ .resolved ∧ trace.confirmation = none) ∧
      ∀ c : ResolutionCondition, c.Holds s route config → trace.outcome ≠ c.reason := by
  intro trace
  have asked : Asked (·.Holds s route config) all trace.outcome := asked_resolve s route config
  have resolved : trace.outcome = .resolved ↔ ∀ c : ResolutionCondition, c.Holds s route config :=
    asked.eq_resolved_iff.trans ⟨fun allHold c => allHold c c.mem_all, fun allHold c _ => allHold c⟩
  have oneOf : trace.outcome = .resolved ∨ ∃ d : ResolutionCondition, trace.outcome = d.reason :=
    asked.eq_resolved_or_reason.imp_right fun ⟨d, _, same⟩ => ⟨d, same⟩
  refine ⟨resolved, ⟨asked.eq_reason_iff, oneOf, ?_⟩, fun c unmet => ?_, fun c met same => ?_⟩
  · rcases oneOf with isResolved | ⟨d, same⟩
    · rw [isResolved]
      decide
    · exact same ▸ d.reason_ne_allowed
  · have unresolved : trace.outcome ≠ .resolved := fun isResolved => unmet (resolved.1 isResolved c)
    refine ⟨unresolved, Option.not_isSome_iff_eq_none.1 fun carries => unresolved ?_⟩
    exact (resolveTarget_outcome_iff s _ config).2 carries
  · obtain ⟨-, -, -, -, unmet⟩ := (asked.eq_reason_iff c).1 same
    exact unmet met

end Held

/-- A transaction on another chain that has been confirmed already and is of an excluded type: three
conditions fail, and the chain, for which is asked first, is what is reported. -/
theorem resolve_outcome_of_several :
    let transfer : PendingApproval := ⟨"1", .transaction, 0, none⟩
    let record : Shared TransactionRecord :=
      ⟨20, ⟨"1", ⟨"0x2"⟩, .confirmed, some .cancel, none⟩⟩
    let s : Snapshot Shared :=
      { (Snapshot.empty.share ⟨0⟩).1 with
        pendingApprovals := ⟨21, .insert .empty "1" transfer⟩
        transactions := ⟨22, [record]⟩
        preferences := ⟨23, ⟨true⟩⟩
        featureFlags := ⟨24, ⟨true, false, ⟨false⟩⟩⟩ }
    let holds (c : ResolutionCondition) : Prop := c.Holds s none .standard
    (resolve s none .standard).outcome = .chainMismatch ∧
      (∀ c ∈ [request, userPreference, supportedType, developerFlag, message, transaction,
        noSignIn], holds c) ∧
      ¬holds activeChain ∧ ¬holds unapproved ∧ ¬holds notExcluded ∧
      (resolve s none .standard).confirmation = none := by
  intro transfer record s holds
  have reported : (resolve s none .standard).outcome = activeChain.reason := rfl
  obtain ⟨-, ⟨isFirst, -, -⟩, unresolved, -⟩ := resolve_outcome s none .standard
  obtain ⟨before, after, split, met, unmet⟩ := (isFirst activeChain).1 reported
  have order : all = [request, userPreference, supportedType, developerFlag, message, transaction,
      noSignIn] ++ activeChain :: [unapproved, notExcluded] := rfl
  obtain ⟨rfl, -, -⟩ := (List.append_cons_inj_of_notMem (by decide) (by decide)).1
    (order.symm.trans split)
  have isCandidate : IsCandidate s transfer (.transaction record) :=
    .transaction record [] [] rfl rfl rfl nofun
  have settled : ¬holds unapproved := fun isUnapproved =>
    absurd (isUnapproved transfer rfl record isCandidate) (by decide)
  have excluded : ¬holds notExcluded := fun isShown =>
    isShown transfer rfl record isCandidate .cancel rfl List.mem_cons_self
  exact ⟨reported, met, unmet, settled, excluded, (unresolved activeChain unmet).2⟩

end WalletView
