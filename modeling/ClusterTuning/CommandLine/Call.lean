import ClusterTuning.CommandLine.Help
import ClusterTuning.CommandLine.Words
import ClusterTuning.Settings

/-!
# ClusterTuning.CommandLine.Call

**What a command line asks for.**

Options that both commands know may stand before and behind the name of the subcommand; the value
behind it wins.
-/

namespace ClusterTuning.CommandLine

/-- An answer that needs no work. -/
inductive Notice where
  /-- A text that was asked for. -/
  | told (text : String)
  /-- The words are not used as they are meant to be. -/
  | misused
deriving DecidableEq, Repr

/-- The answer to a reading that stopped. -/
def Stop.notice (help : String) : Stop → Notice
  | .help => .told help
  | .version => .told versionText
  | .misuse => .misused

/-- The option for the path of the settings. -/
def configOption : OptionSpec where
  name := "config"
  accepts path := path ≠ ""

/-- The option for the address of the remote API. -/
def addressOption : OptionSpec where
  name := "address"

/-- The settings that a command line chooses. -/
structure Choice where
  /-- The path of the settings. -/
  config : String
  /-- The address of the remote API. -/
  address : Option String
deriving DecidableEq, Repr

/-- The settings that values choose. -/
def Choice.ofGiven (given : Given) : Choice :=
  ⟨(given.lookup configOption.name).getD Settings.defaultPath, given.lookup addressOption.name⟩

/-! ### Patching -/

/-- Make the manifest of a trial. -/
structure PatchCall where
  /-- Where the settings come from. -/
  choice : Choice
  /-- The paths of the inputs. -/
  files : List String
  /-- The number of the trial, or a negative one. -/
  trialNumber : Int
  /-- The name of the trial, or an empty one. -/
  trialName : String
deriving DecidableEq, Repr

/-- The option for inputs. -/
def fileOption : OptionSpec where
  name := "file"
  letter := some 'f'
  gathers := true

/-- The option for the number of the trial. -/
def numberOption : OptionSpec where
  name := "trialnumber"
  takesNegative := true
  accepts := isIntegerIn (-twoTo 63) (twoTo 63 - 1)

/-- The option for the name of the trial. -/
def nameOption : OptionSpec where
  name := "trialname"

/-- What comes before a subcommand. -/
def commandUsage : Usage :=
  ⟨[configOption, addressOption], true⟩

/-- What comes behind the subcommand that patches. -/
def patchUsage : Usage :=
  ⟨[fileOption, numberOption, nameOption, configOption, addressOption], false⟩

namespace PatchCall

/-- The call that values before and behind the subcommand make. There has to be an input. -/
def ofGiven (before behind : Given) : Except Notice PatchCall :=
  let files := (behind.filter fun entry => entry.1 = fileOption.name).map Prod.snd
  if files.isEmpty then .error .misused
  else
    .ok {
      choice := Choice.ofGiven (behind ++ before)
      files := files
      trialNumber := ((behind.lookup numberOption.name).bind integer?).getD (-1)
      trialName := (behind.lookup nameOption.name).getD "" }

/-- The text that somebody asks for by the subcommand for help. -/
def helpOn : List String → Notice
  | [] => .told commandHelp
  | ["patch"] => .told patchHelp
  | ["help"] => .told helpHelp
  | _ => .misused

/-- Read a command line. -/
def read (words : List String) : Except Notice PatchCall :=
  match readWords commandUsage none [] words with
  | .error stop => .error (stop.notice commandHelp)
  | .ok (before, "patch" :: words) =>
    match readAll patchUsage words with
    | .error stop => .error (stop.notice patchHelp)
    | .ok behind => ofGiven before behind
  | .ok (_, "help" :: words) => .error (helpOn words)
  | .ok _ => .error .misused

end PatchCall

/-! ### Controlling -/

/-- Let the controller work. -/
structure ControllerCall where
  /-- Where the settings come from. -/
  choice : Choice
  /-- The address to listen at. -/
  bind : Option String
  /-- The port to listen at. -/
  port : Option Nat
deriving DecidableEq, Repr

/-- The option for the address to listen at. -/
def bindOption : OptionSpec where
  name := "bind"

/-- The option for the port to listen at. -/
def portOption : OptionSpec where
  name := "port"
  accepts := isIntegerIn 0 65535

/-- What the controller takes. -/
def controllerUsage : Usage :=
  ⟨[configOption, addressOption, bindOption, portOption], false⟩

/-- Read the command line of the controller. -/
def ControllerCall.read (words : List String) : Except Notice ControllerCall :=
  match readAll controllerUsage words with
  | .error stop => .error (stop.notice controllerHelp)
  | .ok given =>
    .ok {
      choice := Choice.ofGiven given
      bind := given.lookup bindOption.name
      port := ((given.lookup portOption.name).bind integer?).map Int.toNat }

end ClusterTuning.CommandLine
