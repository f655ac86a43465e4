/-
# Report.Text — a report to read, and a report to process

The text has a part for the confirmation, one for the accounts and one for the bridge, a line
for each finding.  The JSON form has a member for each view.
-/
import WalletView.Report.Basic

set_option autoImplicit false

namespace WalletView

/-- A time, or a dash where there is none. -/
def timeOrDash : Option UInt64 → String
  | some time => toString time.toNat
  | none => "-"

/-- A number with a blank in front if it has one digit. -/
def rankText (n : Nat) : String :=
  if n < 10 then " " ++ toString n else toString n

/-- An account on its line, the first having rank 1. -/
def AccountRecord.line (rank : Nat) (a : AccountRecord) : String :=
  "  " ++ rankText rank ++ ". " ++ a.metadata.name ++ " " ++ a.address ++ " [" ++ a.id
    ++ "] lastSelected=" ++ timeOrDash a.metadata.lastSelected
    ++ " lastActive=" ++ timeOrDash a.metadata.lastActive

/-- What a trace ended with, in words. -/
def ResolutionTrace.summary {Hold : Type → Type} [Holding Hold] (t : ResolutionTrace Hold) :
    String :=
  match t.confirmation, t.outcome with
  | some confirmation, _ => confirmation.id ++ " (" ++ confirmation.kind.describe ++ ")"
  | none, .noTarget => "none (no target)"
  | none, outcome => "none (" ++ outcome.describe ++ " for " ++ t.approvalId.getD "?" ++ ")"

namespace Report

def confirmationLines (r : Report Shared) : List String :=
  ["Confirmation",
    "  latest approval:  " ++
      (match r.latestApproval with
        | some a => a.id ++ " (" ++ a.kind.name ++ ", t=" ++ toString a.time.toNat ++ ")"
        | none => "none")]
  ++ (match r.routeId with
    | some route => ["  route id:         " ++ route]
    | none => [])
  ++ ["  current:          " ++ r.currentConfirmation.value.summary]

def accountLines (r : Report Shared) : List String :=
  ["Accounts",
    "  origin:           " ++ r.origin.getD "none",
    "  permitted:        " ++ ", ".intercalate r.permittedAccounts.value]
  ++ r.orderedAccounts.value.mapIdx (fun i a => a.line (i + 1))
  ++ r.lastConnectedInfo.value.entries.map (fun entry =>
    "  last connected:   " ++ entry.1 ++ " (" ++ toString entry.2.accounts.size ++ " accounts)")
  ++ ["  tab permissions:  "
    ++ ", ".intercalate (r.tabPermissions.value.map PermissionEntry.key)]
  ++ r.connectedSubjects.value.map (fun subject =>
    "  connected:        " ++ subject.origin ++ " " ++ subject.metadata.name.getD "")

def bridgeLines (r : Report Shared) : List String :=
  ["Bridge",
    "  " ++ r.sourceChain.text ++ " -> " ++ (r.destinationChain.map ChainId.text).getD "none" ++ ": "
      ++ (if r.bridge.value.isEligible then "true" else "false")
      ++ " (" ++ r.bridge.value.describe ++ ")"]

/-- The report as text, each line with its end. -/
def text (r : Report Shared) : String :=
  String.join ((r.confirmationLines ++ r.accountLines ++ r.bridgeLines).map (· ++ "\n"))

/-- The report as an object. -/
def encode (r : Report Shared) : Json :=
  .object [("routeId", .ofOption .string r.routeId),
    ("origin", .ofOption .string r.origin),
    ("latestPendingApproval", .ofOption PendingApproval.codec.encode r.latestApproval),
    ("currentConfirmation", r.currentConfirmation.value.encode),
    ("permittedAccounts", .array (r.permittedAccounts.value.map .string)),
    ("orderedConnectedAccounts",
      .array (r.orderedAccounts.value.map AccountRecord.codec.encode)),
    ("lastConnectedInfo", LastConnectedInfo.encode r.lastConnectedInfo.value),
    ("permissionsForActiveTab", .array (r.tabPermissions.value.map PermissionEntry.encode)),
    ("connectedSubjects", .array (r.connectedSubjects.value.map ConnectedSubject.encode)),
    ("fromChain", ChainId.codec.encode r.sourceChain),
    ("toChain", .ofOption ChainId.codec.encode r.destinationChain),
    ("bridge", r.bridge.value.encode)]

end Report

end WalletView
