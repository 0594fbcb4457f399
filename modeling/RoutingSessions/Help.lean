/-
  RoutingSessions.Help — the texts that explain the command line.
-/
import RoutingSessions.Arguments

namespace RoutingSessions.Help

/-- The option for the level of notes, explained beside it. -/
def logLevelLine : String :=
  "      --log-level <LOG_LEVEL>  "
    ++ "Log level (trace, debug, info, warn, error); overrides the config file"

/-- What the program is for, and its commands. -/
def program : List String :=
  [ "HDDS Partition Router - Partition-aware routing session management",
    "",
    "Usage: hdds-partition-router [OPTIONS] <COMMAND>",
    "",
    "Commands:",
    "  run         Replay a discovery trace and print the resulting commands",
    "  gen-config  Generate example configuration file",
    "  validate    Validate a configuration file",
    "  help        Print this message or the help of the given subcommand(s)",
    "",
    "Options:",
    logLevelLine,
    "  -h, --help                   Print help",
    "  -V, --version                Print version" ]

/-- The command that plays back a trace; its options are too long for explanations beside
them. -/
def run : List String :=
  [ "Replay a discovery trace and print the resulting commands",
    "",
    "Usage: hdds-partition-router run [OPTIONS] --events <EVENTS>",
    "",
    "Options:",
    "  -c, --config <CONFIG>",
    "          Configuration file path (defaults apply when omitted)",
    "      --log-level <LOG_LEVEL>",
    "          Log level (trace, debug, info, warn, error); overrides the config file",
    "  -e, --events <EVENTS>",
    "          Discovery trace (JSON lines)",
    "      --settle-timeout <SETTLE_TIMEOUT>",
    "          Maximum time to wait for pending commands (seconds) [default: 30]",
    "  -h, --help",
    "          Print help" ]

/-- The command that writes example settings. -/
def generate : List String :=
  [ "Generate example configuration file",
    "",
    "Usage: hdds-partition-router gen-config [OPTIONS]",
    "",
    "Options:",
    logLevelLine,
    "  -o, --output <OUTPUT>        Output file path [default: prouter.toml]",
    "  -h, --help                   Print help" ]

/-- The command that looks at a settings file. -/
def validate : List String :=
  [ "Validate a configuration file",
    "",
    "Usage: hdds-partition-router validate [OPTIONS] --config <CONFIG>",
    "",
    "Options:",
    "  -c, --config <CONFIG>        Configuration file path",
    logLevelLine,
    "  -h, --help                   Print help" ]

/-- The command that prints help. -/
def help : List String :=
  [ "Print this message or the help of the given subcommand(s)",
    "",
    "Usage: hdds-partition-router help [COMMAND]...",
    "",
    "Arguments:",
    "  [COMMAND]...  Print help for the subcommand(s)" ]

/-- The help on a topic. -/
def text : Topic → List String
  | .program => program
  | .run => run
  | .generate => generate
  | .validate => validate
  | .help => help

end RoutingSessions.Help
