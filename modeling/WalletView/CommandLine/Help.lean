/-
# CommandLine.Help — what the program says about itself

The help names the snapshot and the options.  What each means stands in a column of its own, and
with it the variable of the environment that can stand in for an option, with its value now.

The help is styled text for a terminal.  Anywhere else it is plain, and then the values of the
variables are plain with it: a control sequence in a value goes as one in the style does.
-/
import WalletView.Logging.Settings
import WalletView.Text.Terminal

set_option autoImplicit false

namespace WalletView

open Text (bold heading plain)

/-- How the program is called. -/
def usageLine : String :=
  heading "Usage:" ++ " " ++ bold "state-runtime" ++ " [OPTIONS] <SNAPSHOT>"

/-- What can be given to the program.  The form is styled text. -/
structure HelpEntry where
  form : String
  meaning : String
deriving DecidableEq, Repr

namespace HelpEntry

/-- How many characters of the form are shown. -/
def width (e : HelpEntry) : Nat :=
  (plain e.form).length

/-- The entry on lines of its own.  Forms take up `column` characters; a line end in the meaning
does not leave the column of the meanings. -/
def lines (column : Nat) (e : HelpEntry) : String :=
  let room := List.replicate (column - e.width) ' '
  let margin := List.replicate (column + 4) ' '
  let meaning := e.meaning.toList.flatMap fun c => if c = '\n' then '\n' :: margin else [c]
  "  " ++ e.form ++ .ofList room ++ "  " ++ .ofList meaning ++ "\n"

end HelpEntry

/-- Entries under a title. -/
def helpSection (title : String) (entries : List HelpEntry) : String :=
  let column := (entries.map HelpEntry.width).foldl max 0
  heading (title ++ ":") ++ "\n" ++ .join (entries.map (HelpEntry.lines column))

/-- A variable and its value. -/
def variableNote (env : Environment) (name : String) : String :=
  " [env: " ++ name ++ "=" ++ (env name).getD "" ++ "]"

/-- What the program says about itself, as styled text. -/
def styledHelp (env : Environment) : String :=
  "Evaluate the derived-state selectors against a wallet state snapshot\n\n"
    ++ usageLine ++ "\n\n"
    ++ helpSection "Arguments" [⟨"<SNAPSHOT>", "Path to the JSON snapshot"⟩] ++ "\n"
    ++ helpSection "Options"
      [⟨"    " ++ bold "--route-id" ++ " <ROUTE_ID>",
          "Confirmation id taken from the route; the latest approval is used when absent"
            ++ variableNote env "DS_ROUTE_ID"⟩,
        ⟨"    " ++ bold "--origin" ++ " <ORIGIN>",
          "Origin to order accounts for; the active tab's origin when absent"
            ++ variableNote env "DS_ORIGIN"⟩,
        ⟨"    " ++ bold "--json", "Print the report as JSON"⟩,
        ⟨bold "-h" ++ ", " ++ bold "--help", "Print help"⟩]

/-- Whether output is styled.  The environment can forbid style or force it; else it takes a
terminal that can show it. -/
def Environment.allowsStyle (env : Environment) (onTerminal : Bool) : Bool :=
  let isGiven (name : String) : Bool := (env name).getD "" ≠ ""
  let isCapable : Bool :=
    (env "TERM").any (· ≠ "dumb") || (env "CLICOLOR").isSome || (env "CI").isSome
  !isGiven "NO_COLOR"
    && (isGiven "CLICOLOR_FORCE" || (env "CLICOLOR" ≠ some "0" && onTerminal && isCapable))

/-- What the program says about itself. -/
def helpText (env : Environment) (onTerminal : Bool) : String :=
  if env.allowsStyle onTerminal then styledHelp env else plain (styledHelp env)

end WalletView
