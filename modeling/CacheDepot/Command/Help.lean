import CacheDepot.Command.Invocation

/-!
# Help

The texts that explain the command line.
-/

namespace CacheDepot.Command.Topic

/-- The name under which the program is called. -/
def programName : String := "fs-cache"

def versionText : String :=
  programName ++ " 0.1.0\n"

/-- The options of a command, which are the same for all. -/
def optionsText : String :=
  "Options:
  -c, --config <CONFIG>  Path to cache config file (TOML with a [cache] table)
      --set <KEY=VALUE>  Override a setting, e.g. --set cache_size=64M (repeatable)
      --json             Output in JSON format
  -v, --verbose          Enable debug logging
  -h, --help             Print help
"

def usageText : Topic → String
  | .everything => "Usage: " ++ programName ++ " [OPTIONS] <COMMAND>"
  | .action chosen => "Usage: " ++ programName ++ " " ++ chosen.name ++ " [OPTIONS]"
  | .help => "Usage: " ++ programName ++ " help [COMMAND]..."

def summary : Action → String
  | .config => "Show the effective configuration and where it came from"
  | .status => "Apply the configuration and report the shared caches it produces"

def text (topic : Topic) : String :=
  match topic with
  | .everything =>
      "Inspect filesystem cache configuration\n\n" ++ topic.usageText ++ "\n\nCommands:\n" ++
      "  config  " ++ summary .config ++ "\n" ++
      "  status  " ++ summary .status ++ "\n" ++
      "  help    Print this message or the help of the given subcommand(s)\n" ++
      "\nOptions:
  -v, --verbose  Enable debug logging
  -h, --help     Print help
  -V, --version  Print version
"
  | .action chosen => summary chosen ++ "\n\n" ++ topic.usageText ++ "\n\n" ++ optionsText
  | .help =>
      "Print this message or the help of the given subcommand(s)\n\n" ++ topic.usageText ++
      "\n\nArguments:\n  [COMMAND]...  Print help for the subcommand(s)\n"

/-- The text that answers a mistake. -/
def misuseText (mistake : Misuse) : String :=
  "error: " ++ mistake.message ++ "\n\n" ++ everything.usageText ++
    "\n\nFor more information, try '--help'.\n"

end CacheDepot.Command.Topic
