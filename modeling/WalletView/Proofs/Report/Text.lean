/-
# Proofs.Report.Text — what the text of a report tells

A report has a member for each view, always all of them and in one order.  Its accounts and
permissions may hold doubles, but stand behind the first four members; those are told by the text
however it goes on, and the trace of the current confirmation is the last of them.
-/
import WalletView.Report.Text
import WalletView.Proofs.Confirmation.Trace

set_option autoImplicit false

namespace WalletView.Report

open Json

/-- The members in front of the views that may hold doubles. -/
def front (r : Report Shared) : List (String × Json) :=
  [("routeId", .ofOption .string r.routeId), ("origin", .ofOption .string r.origin),
    ("latestPendingApproval", .ofOption PendingApproval.codec.encode r.latestApproval),
    ("currentConfirmation", r.currentConfirmation.value.encode)]

theorem exists_encode_eq (r : Report Shared) : ∃ more, r.encode = .object (r.front ++ more) :=
  ⟨_, rfl⟩

theorem front_isWhole {r : Report Shared} :
    (∀ member ∈ r.front, member.2.isWhole = true) ↔
      ∀ j ∈ r.currentConfirmation.value.freeForm, j.isWhole = true := by
  simp [front, Json.isWhole, ResolutionTrace.encode_isWhole]

/-- **The text of a report tells what was to be confirmed**, in the values that the trace holds, as
long as no double stands among the data of a message; what the other views hold does not matter. -/
theorem currentConfirmation_eq_of_text {r s : Report Shared}
    (whole : ∀ j ∈ r.currentConfirmation.value.freeForm, j.isWhole = true)
    (whole' : ∀ j ∈ s.currentConfirmation.value.freeForm, j.isWhole = true)
    (sameText : r.encode.compact = s.encode.compact) :
    r.currentConfirmation.value.values = s.currentConfirmation.value.values := by
  obtain ⟨more, encoded⟩ := r.exists_encode_eq
  obtain ⟨more', encoded'⟩ := s.exists_encode_eq
  rw [encoded, encoded'] at sameText
  have fronts : r.front = s.front :=
    front_eq_of_compact_eq (front_isWhole.2 whole) (front_isWhole.2 whole') rfl sameText
  have traces : r.currentConfirmation.value.encode = s.currentConfirmation.value.encode := by
    simp only [front, List.cons.injEq, Prod.mk.injEq, true_and, and_true] at fronts
    exact fronts.2.2.2
  exact ResolutionTrace.values_eq_of_encode_eq traces

end WalletView.Report
