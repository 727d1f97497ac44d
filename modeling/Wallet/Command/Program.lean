import Wallet.Command.Session

/-!
# The program

From a command line to what is printed and the exit code. Results go to the standard output as
JSON over several lines, failures to the standard error.

| Exit code | Meaning                                  |
|-----------|------------------------------------------|
| 0         | the command succeeded                    |
| 1         | the command failed                       |
| 2         | the command line could not be understood |
-/

namespace Wallet.Command

/-- How a run ends. -/
structure Ending where
  code : UInt8
  output : String
  errors : String

/-- A run: what to log of it, how, and what it does. -/
structure Program where
  filter : Log.Filter
  format : Log.Format
  exchange : Exchange Ending

/-- The version of the program. -/
def version : String := "0.1.0"

/-- A short summary of what can be asked for. -/
def summary : String :=
  "Usage: lto-node [OPTIONS] <COMMAND>\n\nCommands:\n  account new|show\n" ++
    String.join (verbs.map fun entry => s!"  {entry.1}\n")

/-- The ending of a command. -/
def conclude : Except Failure Json → Ending
  | .ok document => ⟨0, document.pretty ++ "\n", ""⟩
  | .error failure => ⟨1, "", failure.text ++ "\n"⟩

/-- Run a command with its settings. -/
def perform (around : Surroundings) (settings : Settings) (action : Action) : Task Json := do
  Task.report [.initialized settings.logFormat, .starting settings.chainId]
  let session ← Session.start settings
  session.run around action

/-- A run that only prints something. -/
def immediate (ending : Ending) : Program :=
  ⟨[], .pretty, .done ending⟩

/-- The run of a command line. -/
def program (around : Surroundings) (env : Environment) (words : List String) : Program :=
  match readIntent env words with
  | .usage => immediate ⟨2, "", "error: the command line could not be understood\n\n" ++ summary⟩
  | .help => immediate ⟨0, summary, ""⟩
  | .version name => immediate ⟨0, s!"{name} {version}\n", ""⟩
  | .run settings action =>
    ⟨Log.Filter.ofVariable (env Log.Filter.variableName) settings.verbose,
      settings.logFormat, do return conclude (← (perform around settings action).run)⟩

end Wallet.Command
