/-
# CommandLine.Arguments — what the program is asked to do

The program takes one snapshot, two options with a value, `--route-id` and `--origin`, and the
flag `--json`.  An option's value stands behind `=` or is the next argument; behind `--` every
argument is a snapshot.  Options that are absent are taken from the environment.

Arguments are looked at one after another.  A value that stands apart from its option, and the
snapshot, is *pending* until the next option, flag or snapshot, or until the end; only then is it
found wanting: no value where there has to be one, an option given twice, or an empty path.  An
argument that means nothing is reported at once.
-/
import WalletView.Logging.Settings

set_option autoImplicit false

namespace WalletView

/-- What the program is asked to do. -/
structure Arguments where
  snapshot : String
  routeId : Option String
  origin : Option String
  json : Bool
deriving DecidableEq, Repr

/-- Why the arguments make no sense, or that help was asked for. -/
inductive UsageError where
  | missingSnapshot
  | unknownArgument
  | repeatedArgument
  | noValue
  | needlessValue
  | helpRequested
deriving DecidableEq, Repr

namespace Arguments

/-- What takes a value. -/
inductive Place where
  | snapshot
  | routeId
  | origin
deriving DecidableEq, Repr

/-- The arguments that have been understood so far. -/
structure Draft where
  snapshot : Option String
  routeId : Option String
  origin : Option String
  json : Bool
  /-- A place and the value for it, once there is one. -/
  pending : Option (Place × Option String)
  /-- Whether `--` has been passed. -/
  onlySnapshots : Bool
deriving DecidableEq, Repr

namespace Draft

def empty : Draft := ⟨none, none, none, false, none, false⟩

/-- Puts a value in its place, which must be vacant. -/
def put (d : Draft) (place : Place) (value : String) : Except UsageError Draft :=
  match place with
  | .snapshot => if value = "" then .error .noValue else .ok { d with snapshot := some value }
  | .routeId =>
    if d.routeId.isSome then .error .repeatedArgument else .ok { d with routeId := some value }
  | .origin =>
    if d.origin.isSome then .error .repeatedArgument else .ok { d with origin := some value }

/-- Puts the pending value in its place. -/
def settle (d : Draft) : Except UsageError Draft :=
  match d.pending with
  | none => .ok d
  | some (_, none) => .error .noValue
  | some (place, some value) => { d with pending := none }.put place value

/-- An option, with the value behind `=` if there is one. -/
def option (d : Draft) (place : Place) (value : Option String) : Except UsageError Draft := do
  let d ← d.settle
  match value with
  | some value => d.put place value
  | none => return { d with pending := some (place, none) }

/-- The flag, with the value behind `=` if there is one. -/
def flag (d : Draft) (value : Option String) : Except UsageError Draft :=
  match value with
  | some _ => .error .needlessValue
  | none => do
    let d ← d.settle
    if d.json then .error .repeatedArgument else .ok { d with json := true }

/-- A request for help. -/
def help (d : Draft) : Except UsageError Draft := do
  let _ ← d.settle
  .error .helpRequested

/-- Whether a snapshot has been given. -/
def hasSnapshot (d : Draft) : Bool :=
  d.snapshot.isSome || d.pending.any fun p => p.1 = .snapshot

/-- A path. -/
def path (d : Draft) (value : String) : Except UsageError Draft :=
  if d.hasSnapshot then .error .unknownArgument
  else do
    let d ← d.settle
    return { d with pending := some (.snapshot, some value) }

/-- An argument that is no option: the value that an option waits for, or a path. -/
def plain (d : Draft) (value : String) : Except UsageError Draft :=
  match d.pending with
  | some (place, none) => .ok { d with pending := some (place, some value) }
  | _ => d.path value

/-- An argument that begins with two dashes. -/
def long (d : Draft) (name : String) (value : Option String) : Except UsageError Draft :=
  if name = "route-id" then d.option .routeId value
  else if name = "origin" then d.option .origin value
  else if name = "json" then d.flag value
  else if name = "help" then
    match value with
    | some _ => .error .needlessValue
    | none => d.help
  else .error .unknownArgument

/-- What stands behind `=`, if there is such a sign. -/
def valuePart : List Char → Option String
  | '=' :: value => some (.ofList value)
  | _ => none

/-- Takes in one more argument. -/
def next (d : Draft) (argument : String) : Except UsageError Draft :=
  if d.onlySnapshots then d.path argument
  else
    match argument.toList with
    | ['-', '-'] => .ok { d with onlySnapshots := true }
    | '-' :: '-' :: rest =>
      d.long (.ofList (rest.takeWhile (· != '='))) (valuePart (rest.dropWhile (· != '=')))
    | '-' :: letter :: _ => if letter = 'h' then d.help else .error .unknownArgument
    | _ => d.plain argument

end Draft

/-- Understands arguments; what is absent is taken from the environment. -/
def parse (arguments : List String) (env : Environment) : Except UsageError Arguments := do
  let draft ← arguments.foldlM Draft.next Draft.empty
  let draft ← draft.settle
  match draft.snapshot with
  | none => .error .missingSnapshot
  | some snapshot =>
    return { snapshot, routeId := draft.routeId <|> env "DS_ROUTE_ID",
             origin := draft.origin <|> env "DS_ORIGIN", json := draft.json }

end Arguments

end WalletView
