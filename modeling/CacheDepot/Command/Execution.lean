import CacheDepot.Command.Help
import CacheDepot.Command.Overrides
import CacheDepot.Command.Report

/-!
# Execution

What a command line prints and how it ends, given the files that it can read. A
command that cannot load the configuration prints the reason and ends with 2, as
does a command line that is wrong.
-/

namespace CacheDepot.Command

open Config (Loaded LoadError)

/-- What a program run leaves behind. -/
structure Outcome where
  exit : Nat
  output : String := ""
  errors : String := ""
  deriving DecidableEq, Repr

/-- Why a command has no configuration. -/
inductive Failure where
  | setting (error : MalformedSetting)
  | load (error : LoadError)
  deriving DecidableEq, Repr

namespace Failure

def message : Failure → String
  | .setting error => error.message
  | .load error => error.message

/-- The line that reports a failure. -/
def line (failure : Failure) : String :=
  "Error: " ++ failure.message ++ "\n"

end Failure

/-- The configuration that options ask for. -/
def Options.load (read : Files.Reader) (options : Options) : Except Failure Loaded :=
  match Overrides.layer? options.settings with
  | .error error => .error (.setting error)
  | .ok overrides =>
      match Config.load read options.file overrides with
      | .error error => .error (.load error)
      | .ok loaded => .ok loaded

def showConfig (asJson : Bool) (loaded : Loaded) : Outcome :=
  { exit := 0
    output := if asJson then (ConfigReport.json loaded).indented ++ "\n"
      else ConfigReport.text loaded }

def showStatus (asJson : Bool) (status : Status) : Outcome :=
  { exit := if status.error?.isSome then 1 else 0
    output := if asJson then status.json.indented ++ "\n" else status.text }

/-- Carries out a command in a process with shared caches; tells what has become of them. -/
def Action.execute (read : Files.Reader) (options : Options) (action : Action)
    (depot : Depot Unit) : Outcome × Depot Unit :=
  match options.load read, action with
  | .error failure, _ => ({ exit := 2, errors := failure.line }, depot)
  | .ok loaded, .config => (showConfig options.json loaded, depot)
  | .ok loaded, .status =>
      let (applied, last) := Status.apply loaded.config depot
      (showStatus options.json applied, last)

namespace Invocation

def execute (read : Files.Reader) (depot : Depot Unit) : Invocation → Outcome × Depot Unit
  | .perform action options => action.execute read options depot
  | .help topic => ({ exit := 0, output := topic.text }, depot)
  | .version => ({ exit := 0, output := Topic.versionText }, depot)
  | .misuse mistake => ({ exit := 2, errors := Topic.misuseText mistake }, depot)

end Invocation

/-- Carries out a command line in a process of its own. -/
def process (read : Files.Reader) (arguments : List String) : Outcome × Depot Unit :=
  (Invocation.ofArguments arguments).execute read (Depot.fresh ())

/-- What a command line prints and how it ends. -/
def run (read : Files.Reader) (arguments : List String) : Outcome :=
  (process read arguments).1

end CacheDepot.Command
