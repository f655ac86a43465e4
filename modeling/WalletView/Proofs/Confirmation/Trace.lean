/-
# Proofs.Confirmation.Trace — a trace is told by its text

A trace is written with nothing that says what it carries: a confirmation stands there as the
message or the transaction that it is, an outcome has a reason only if the gate gave one, and parts
that are missing are `null` or left out.  Still no two traces have one text.

* A transaction has a chain, and no message has a member of that name
  (`SignableMessage.encode_ne_transaction`).
* An outcome with a reason is *gated*, and its reason is the gate's decision
  (`ResolutionOutcome.encode_injective`).
* A trace is written as an object of four members, whose text tells the value, unless there are
  doubles among the data of a message (`ResolutionTrace.values_eq_of_compact_eq`).

Equality of traces is that of what they hold: the allocations are not written.
-/
import WalletView.Confirmation.Trace
import WalletView.Proofs.Json.Printer
import WalletView.Proofs.Wallet.RoundTrip
import WalletView.Proofs.Wallet.Faithful

set_option autoImplicit false

namespace WalletView

open Json

/-! ## Kinds and outcomes -/

theorem ConfirmationKind.name_injective : Function.Injective name := by
  intro kind other
  cases kind <;> cases other <;> decide

theorem GateDecision.name_injective : Function.Injective name := by
  intro decision other
  cases decision <;> cases other <;> decide

namespace ResolutionOutcome

variable {o p : ResolutionOutcome}

theorem decision?_eq_some_iff {decision : GateDecision} :
    o.decision? = some decision ↔ o = gated decision := by
  cases o <;> simp [decision?]

/-- Two outcomes that the gate has no part in are told by their names. -/
theorem eq_of_name_eq (ungated : o.decision? = none) (ungated' : p.decision? = none)
    (same : o.name = p.name) : o = p := by
  cases o with
  | gated decision => cases ungated
  | _ =>
    cases p with
    | gated decision => cases ungated'
    | _ => first | rfl | exact absurd same (by decide)

@[simp] theorem encode_isWhole (o : ResolutionOutcome) : o.encode.isWhole = true := by
  cases o <;> rfl

/-- An outcome is told by its name and, where there is one, the reason behind it. -/
theorem encode_injective : Function.Injective encode := by
  intro o p same
  rw [encode, encode] at same
  cases decided : o.decision? with
  | some decision =>
    obtain rfl := decision?_eq_some_iff.1 decided
    cases decided' : p.decision? with
    | some other =>
      obtain rfl := decision?_eq_some_iff.1 decided'
      obtain ⟨reason, -⟩ := List.cons.inj (List.cons.inj (Json.object.inj same)).2
      exact congrArg gated (GateDecision.name_injective (Json.string.inj (Prod.mk.inj reason).2))
    | none =>
      rw [decided, decided'] at same
      exact nomatch (List.cons.inj (Json.object.inj same)).2
  | none =>
    cases decided' : p.decision? with
    | some other =>
      rw [decided, decided'] at same
      exact nomatch (List.cons.inj (Json.object.inj same)).2
    | none =>
      rw [decided, decided'] at same
      obtain ⟨outcome, -⟩ := List.cons.inj (Json.object.inj same)
      exact eq_of_name_eq decided decided' (Json.string.inj (Prod.mk.inj outcome).2)

end ResolutionOutcome

/-! ## Confirmations -/

/-- A transaction has a chain where a message has what is to be signed. -/
theorem SignableMessage.encode_ne_transaction (m : SignableMessage) (t : TransactionRecord) :
    codec.encode m ≠ TransactionRecord.codec.encode t := by
  intro same
  have members := Json.object.inj same
  obtain ⟨key, -⟩ := Prod.mk.inj (List.cons.inj (List.cons.inj members).2).1
  exact absurd key (by decide)

theorem MessageParams.same_self {p : MessageParams} (whole : ∀ j ∈ p.data, j.isWhole = true) :
    p.same p = true := by
  obtain ⟨data, origin, signer, siwe⟩ := p
  cases data with
  | none => simp [same]
  | some j => simp [same, Json.same_self (whole j rfl)]

theorem SignableMessage.same_self {m : SignableMessage}
    (whole : ∀ j ∈ m.freeForm, j.isWhole = true) : m.same m = true := by
  have params : m.params.same m.params = true :=
    MessageParams.same_self fun j isData => whole j (Option.mem_toList.2 isData)
  simp [same, params]

namespace Confirmation

/-- What is written of a confirmation without its allocation tells the confirmation. -/
theorem encode_injective : Function.Injective (encode : Confirmation Plain → Json) := by
  intro c d same
  cases c with
  | signature m =>
    cases d with
    | signature n => exact congrArg signature (SignableMessage.encode_injective same)
    | transaction t => exact absurd same (SignableMessage.encode_ne_transaction _ _)
  | transaction t =>
    cases d with
    | signature m => exact absurd same.symm (SignableMessage.encode_ne_transaction _ _)
    | transaction u => exact congrArg transaction (TransactionRecord.encode_injective same)

section Held

variable {Hold : Type → Type} [Holding Hold]

theorem encode_ne_null (c : Confirmation Hold) : c.encode ≠ .null := by
  cases c <;> nofun

theorem values_encode (c : Confirmation Hold) : c.values.encode = c.encode := by
  cases c <;> rfl

theorem values_same (c d : Confirmation Hold) : c.values.same d.values = c.same d := by
  cases c <;> cases d <;> rfl

/-- The values of a confirmation that may have any shape. -/
def freeForm : Confirmation Hold → List Json
  | signature message => (Holding.value message).freeForm
  | transaction _ => []

theorem encode_isWhole {c : Confirmation Hold} :
    c.encode.isWhole = true ↔ ∀ j ∈ c.freeForm, j.isWhole = true := by
  cases c with
  | signature message => exact SignableMessage.encode_isWhole
  | transaction record => simp [encode, freeForm]

theorem same_self {c : Confirmation Hold} (whole : ∀ j ∈ c.freeForm, j.isWhole = true) :
    c.same c = true := by
  cases c with
  | signature message => exact SignableMessage.same_self whole
  | transaction record => exact beq_self_eq_true _

end Held

end Confirmation

/-! ## Traces -/

namespace ResolutionTrace

/-- What is written of a trace tells its parts: `null` stands for a part that is missing, and for no
other. -/
theorem encode_injective : Function.Injective (encode : ResolutionTrace Plain → Json) := by
  intro t u same
  obtain ⟨approvalId, kind, outcome, confirmation⟩ := t
  obtain ⟨approvalId', kind', outcome', confirmation'⟩ := u
  simp only [encode, Json.object.injEq, List.cons.injEq, Prod.mk.injEq, true_and, and_true] at same
  obtain ⟨ids, kinds, outcomes, confirmations⟩ := same
  have toldId : Function.Injective (Json.ofOption Json.string) :=
    ofOption_injective (fun _ _ => Json.string.inj) nofun
  have toldKind : Function.Injective (Json.ofOption fun k : ConfirmationKind => .string k.name) :=
    ofOption_injective (fun _ _ same => ConfirmationKind.name_injective (Json.string.inj same))
      nofun
  obtain rfl := toldId ids
  obtain rfl := toldKind kinds
  obtain rfl := ResolutionOutcome.encode_injective outcomes
  obtain rfl := ofOption_injective Confirmation.encode_injective Confirmation.encode_ne_null
    confirmations
  rfl

variable {Hold : Type → Type} [Holding Hold]

theorem values_encode (t : ResolutionTrace Hold) : t.values.encode = t.encode := by
  obtain ⟨approvalId, kind, outcome, confirmation⟩ := t
  cases confirmation with
  | none => rfl
  | some c => simp only [encode, values, Option.map_some, ofOption, c.values_encode]

theorem values_eq_of_encode_eq {t u : ResolutionTrace Hold} (sameJson : t.encode = u.encode) :
    t.values = u.values := by
  apply encode_injective
  rw [values_encode, values_encode, sameJson]

theorem values_same (t u : ResolutionTrace Hold) : t.values.same u.values = t.same u := by
  obtain ⟨approvalId, kind, outcome, confirmation⟩ := t
  obtain ⟨approvalId', kind', outcome', confirmation'⟩ := u
  cases confirmation with
  | none => cases confirmation' <;> rfl
  | some c =>
    cases confirmation' with
    | none => rfl
    | some d => simp only [same, values, Option.map_some, c.values_same d]

/-- The values of a trace that may have any shape. -/
def freeForm (t : ResolutionTrace Hold) : List Json :=
  t.confirmation.toList.flatMap Confirmation.freeForm

theorem encode_isWhole {t : ResolutionTrace Hold} :
    t.encode.isWhole = true ↔ ∀ j ∈ t.freeForm, j.isWhole = true := by
  rw [encode, isWhole_object, freeForm, List.forall_mem_flatMap]
  simp [Json.isWhole, Confirmation.encode_isWhole]

theorem same_self {t : ResolutionTrace Hold} (whole : ∀ j ∈ t.freeForm, j.isWhole = true) :
    t.same t = true := by
  obtain ⟨approvalId, kind, outcome, confirmation⟩ := t
  cases confirmation with
  | none => simp [same]
  | some c =>
    have sameConfirmation : c.same c = true := by
      refine Confirmation.same_self fun j isFree => whole j ?_
      exact List.mem_flatMap.2 ⟨c, List.mem_singleton_self c, isFree⟩
    simp [same, sameConfirmation]

/-- **No two traces have one text**, unless there are doubles among the data of their messages: then
the traces have the same parts, and the same values in the allocations that they hold. -/
theorem values_eq_of_compact_eq {t u : ResolutionTrace Hold}
    (whole : ∀ j ∈ t.freeForm, j.isWhole = true) (whole' : ∀ j ∈ u.freeForm, j.isWhole = true)
    (sameText : t.encode.compact = u.encode.compact) : t.values = u.values ∧ t.same u = true := by
  have sameJson : t.encode = u.encode :=
    Json.eq_of_compact_eq (encode_isWhole.2 whole) (encode_isWhole.2 whole') sameText
  have sameValues : t.values = u.values := values_eq_of_encode_eq sameJson
  refine ⟨sameValues, ?_⟩
  rw [← values_same, sameValues, values_same]
  exact same_self whole'

/-- One message in two allocations, with data that are nested and hold a quote, nothing, and a
number below zero. -/
theorem values_eq_of_compact_eq_copied :
    let data : Json := .object [("list", .array [.null, .number (.integer (-1))]),
      ("quote", .string "\"")]
    let message : SignableMessage := ⟨"7", ⟨some data, some "https://remix.ethereum.org", none,
      some ⟨false⟩⟩⟩
    let trace (token : Nat) : ResolutionTrace Shared := .resolved (.signature ⟨token, message⟩)
    (trace 3).encode.compact = (trace 9).encode.compact ∧
      (trace 3).values = (trace 9).values ∧ (trace 3).same (trace 9) = true :=
  ⟨rfl, values_eq_of_compact_eq (by decide) (by decide) rfl⟩

end ResolutionTrace

end WalletView
