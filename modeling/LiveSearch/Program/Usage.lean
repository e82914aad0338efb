import LiveSearch.Program.Arguments

/-!
# Help texts

What the program prints about itself.
-/

namespace LiveSearch

namespace Usage

/-- The name and the version of the program. -/
def versionLine : String := "search-provider 0.1.0"

/-- The help about a topic. -/
def help : Topic → List String
  | .program => [
    "Live search lists over a JSON store",
    "",
    "Usage: search-provider [OPTIONS] <COMMAND>",
    "",
    "Commands:",
    "  shell   Run a provider over in-memory stores, reading commands from stdin",
    "  parse   Print the descriptor and plan for a subscription name",
    "  config  Print the effective configuration as TOML",
    "  help    Print this message or the help of the given subcommand(s)",
    "",
    "Options:",
    "      --config <CONFIG>            Path to a config file (TOML). If omitted, " ++
      "./search-provider.toml is used when present.",
    "      --prefix <PREFIX>            List name prefix that marks a subscription as a search",
    "      --primary-key <PRIMARY_KEY>  Record field published as list entries",
    "      --log-level <LOG_LEVEL>      error|warn|info|debug|trace",
    "      --log-dir <LOG_DIR>          Write rolling log files here instead of stderr",
    "  -h, --help                       Print help",
    "  -V, --version                    Print version"]
  | .shell => [
    "Run a provider over in-memory stores, reading commands from stdin",
    "",
    "Usage: search-provider shell [OPTIONS]",
    "",
    "Options:",
    "      --seed <SEEDS>  Preload a table from NDJSON: table=file.ndjson (repeatable)",
    "      --json          Print lists and sessions as JSON lines",
    "  -h, --help          Print help"]
  | .parse => [
    "Print the descriptor and plan for a subscription name",
    "",
    "Usage: search-provider parse <NAME>",
    "",
    "Arguments:",
    "  <NAME>  Subscription name, e.g. search?\x7b\"table\":\"books\",\"query\":[]\x7d",
    "",
    "Options:",
    "  -h, --help  Print help"]
  | .config => [
    "Print the effective configuration as TOML",
    "",
    "Usage: search-provider config",
    "",
    "Options:",
    "  -h, --help  Print help"]
  | .help => [
    "Print this message or the help of the given subcommand(s)",
    "",
    "Usage: search-provider help [COMMAND]",
    "",
    "Commands:",
    "  shell   Run a provider over in-memory stores, reading commands from stdin",
    "  parse   Print the descriptor and plan for a subscription name",
    "  config  Print the effective configuration as TOML",
    "  help    Print this message or the help of the given subcommand(s)"]

end Usage

end LiveSearch
