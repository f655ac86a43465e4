/-
# Confirmation.Checks — what a confirmation may be shown under

Showing the wrong confirmation is worse than showing none.  Each check is a condition on a trace
that carries a confirmation; a trace without one passes every check.
-/
import WalletView.Confirmation.Resolution

set_option autoImplicit false

namespace WalletView.ResolutionTrace

variable {Hold : Type → Type}

/-- Nothing is confirmed against the user's choice. -/
def respectsUserGate (t : ResolutionTrace Hold) (preferences : Preferences) : Bool :=
  t.confirmation.isNone || preferences.redesignedConfirmationsEnabled

variable [Holding Hold]

/-- No sign-in message is confirmed. -/
def hasNoSiwe (t : ResolutionTrace Hold) : Bool :=
  match t.confirmation with
  | some (.signature message) => !(Holding.value message).isSiwe
  | _ => true

/-- A confirmed transaction is unapproved, on the active chain and of a type that is not
excluded, and the developers' flag is on. -/
def isActionable (t : ResolutionTrace Hold) (provider : ProviderConfig) (flags : FeatureFlags)
    (config : ResolverConfig) : Bool :=
  match t.confirmation with
  | some (.transaction transaction) =>
    let record := Holding.value transaction
    record.status == .unapproved && record.chainId == provider.chainId
      && !config.excludes record.kind && flags.isRedesignedConfirmationsFeatureEnabled
  | _ => true

/-- What is confirmed has the id of the request. -/
def matchesTarget (t : ResolutionTrace Hold) (target : Option PendingApproval) : Bool :=
  match t.confirmation, target with
  | some confirmation, some approval => confirmation.id == approval.id
  | some _, none => false
  | none, _ => true

end WalletView.ResolutionTrace
