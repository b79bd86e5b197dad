/-!
# ClusterTuning.CommandLine.Help

**What the commands say about themselves.**
-/

namespace ClusterTuning.CommandLine

/-- The name and the version. -/
def versionText : String := "trialctl 0.1.0\n"

/-- Stands for the notes on usage that a misused command gives. -/
def usageNotes : String := "<usage>"

/-- Lines of text. -/
def textOf (lines : List String) : String :=
  String.join (lines.map fun line => line ++ "\n")

/-- Help on the command. -/
def commandHelp : String := textOf [
  "Render and deploy experiment trials",
  "",
  "Usage: trialctl [OPTIONS] <COMMAND>",
  "",
  "Commands:",
  "  patch  Create a patched manifest using the parameters of a completed trial",
  "  help   Print this message or the help of the given subcommand(s)",
  "",
  "Options:",
  "      --config <CONFIG>    Configuration file [default: trialctl.toml]",
  "      --address <ADDRESS>  Remote API address, overriding `api.address` from the config file",
  "  -h, --help               Print help",
  "  -V, --version            Print version"]

/-- Help on patching. -/
def patchHelp : String := textOf [
  "Create a patched manifest using the parameters of a completed trial",
  "",
  "Usage: trialctl patch [OPTIONS] --file <FILES>",
  "",
  "Options:",
  "      --config <CONFIG>             Configuration file [default: trialctl.toml]",
  "  -f, --file <FILES>                Experiment and related manifests to patch, `-` for stdin",
  "      --address <ADDRESS>           Remote API address, overriding `api.address` from the " ++
    "config",
  "                                    file",
  "      --trialnumber <TRIAL_NUMBER>  Trial number [default: -1]",
  "      --trialname <TRIAL_NAME>      Trial name; its trailing number identifies the trial " ++
    "[default: ]",
  "  -h, --help                        Print help"]

/-- Help on help. -/
def helpHelp : String := textOf [
  "Print this message or the help of the given subcommand(s)",
  "",
  "Usage: trialctl help [COMMAND]...",
  "",
  "Arguments:",
  "  [COMMAND]...  Print help for the subcommand(s)"]

/-- Help on the controller. -/
def controllerHelp : String := textOf [
  "Deploy experiments in response to application activity",
  "",
  "Usage: trialctl-controller [OPTIONS]",
  "",
  "Options:",
  "      --config <CONFIG>    Path to the configuration file [default: trialctl.toml]",
  "      --address <ADDRESS>  Override the API server address",
  "      --bind <BIND>        Address to bind the status server to (overrides config)",
  "      --port <PORT>        Port to listen on (overrides config)",
  "  -h, --help               Print help"]

end ClusterTuning.CommandLine
