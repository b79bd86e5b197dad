import ClusterTuning.CommandLine.Call
import ClusterTuning.Generation
import ClusterTuning.TrialManifest
import ClusterTuning.Web.Client

/-!
# ClusterTuning.CommandLine

**The two commands, as functions of their surroundings.**

What a command can see of its surroundings are files, its input, a network and other programs. It
ends with an exit code, its output and its messages.
-/

namespace ClusterTuning.CommandLine

/-- What a command can see. -/
structure Surroundings where
  /-- The files. -/
  reader : FileReader
  /-- The input. -/
  stdin : Bytes := []
  /-- The network. -/
  network : Web.Network := fun _ => none
  /-- Other programs. -/
  launch : Program.Launcher

/-- How a command ends. -/
structure Ending where
  /-- The exit code. -/
  exit : Nat
  /-- The output. -/
  stdout : String
  /-- The messages. -/
  stderr : String
deriving DecidableEq, Repr, Inhabited

namespace Ending

/-- The exit code of a misused command. -/
def misuseExit : Nat := 2

/-- The end without any work. -/
def ofNotice : Notice → Ending
  | .told text => ⟨exitOk, text, ""⟩
  | .misused => ⟨misuseExit, "", usageNotes ++ "\n"⟩

end Ending

/-- The settings for a choice, as far as they can be used. -/
def settingsFor (s : Surroundings) (choice : Choice) : Except Trouble Settings :=
  (Settings.load s.reader choice.config).map (Settings.withAddress choice.address)

/-! ### Patching -/

/-- The services behind a client of the remote API. -/
def serviceOf (s : Surroundings) (settings : Settings) (client : Web.Client) :
    TrialService Unit where
  experiment name _ := (client.experiment s.network name, ())
  trials url states _ := (client.trials s.network url states, ())
  generate app _ := (Generation.commandGenerator settings.generator s.launch app, ())

/-- Make the manifest of a trial. The trial has to be named well before anything is asked of the
remote API. -/
def patchWith (s : Surroundings) (settings : Settings) (call : PatchCall) :
    Except Failure String := do
  let selector ← TrialSelector.ofFlags call.trialName call.trialNumber
  discard selector.number
  let client ← Web.Client.ofSettings settings.api
  (trialManifest (serviceOf s settings client) selector s.reader s.stdin call.files ()).1

/-- Text whose last line is ended. -/
def withFinalLineEnd (text : String) : String :=
  if Text.endsWith ['\n'] text.toList then text else text ++ "\n"

/-- Load settings and make the manifest of a trial. -/
def runPatch (s : Surroundings) (call : PatchCall) : Except Trouble String :=
  match settingsFor s call.choice with
  | .error e => .error e
  | .ok settings =>
    match patchWith s settings call with
    | .error e => .error (.failure e)
    | .ok text => .ok (withFinalLineEnd text)

/-- The command that makes manifests of trials. -/
def patchCommand (s : Surroundings) (words : List String) : Ending :=
  match PatchCall.read words with
  | .error notice => .ofNotice notice
  | .ok call =>
    match runPatch s call with
    | .ok text => ⟨exitOk, text, ""⟩
    | .error e => ⟨e.exitCode, "", e.message ++ "\n"⟩

/-! ### Controlling -/

/-- The lines of a cause below others. Several causes are numbered from zero. -/
def causeText (number : Option Nat) (cause : String) : String :=
  let (first, next) : List Char × List Char := match number with
    | none => ([' ', ' ', ' ', ' '], [' ', ' ', ' ', ' '])
    | some n =>
      let digits := Decimal.natDigits n
      (List.replicate (5 - digits.length) ' ' ++ digits ++ [':', ' '], List.replicate 7 ' ')
  String.ofList (first ++ Text.joinWith ('\n' :: next) (Text.splitAt '\n' cause.toList))

/-- The causes below the outermost message. -/
def causesText (causes : List String) : String :=
  let number (i : Nat) : Option Nat := if 1 < causes.length then some i else none
  if causes.isEmpty then ""
  else
    "\n\nCaused by:\n" ++
      Text.joinStrings "\n" (causes.mapIdx fun i cause => causeText (number i) cause)

/-- A failure with its causes, on a line each. -/
def report (e : Trouble) : String :=
  match e.messages with
  | [] => "Error: "
  | message :: causes => "Error: " ++ message ++ causesText causes

/-- The place at which the controller listens. -/
def listenAddress (settings : ControllerSettings) (call : ControllerCall) : String :=
  call.bind.getD settings.bind ++ ":" ++
    String.ofList (Decimal.natDigits (call.port.getD settings.port))

/-- Start the controller. It works until it is stopped, unless it cannot subscribe to activities. -/
def runController (s : Surroundings) (call : ControllerCall) : Except Trouble Unit :=
  match settingsFor s call.choice with
  | .error e => .error e
  | .ok settings =>
    match Web.Client.ofSettings settings.api with
    | .error e => .error (.context "build API client" (.failure e))
    | .ok client =>
      let place := listenAddress settings.controller call
      if !Web.isSocketAddress place.toList then
        .error (.context ("invalid listen address " ++ place)
          (.plain "invalid socket address syntax"))
      else
        match client.look s.network with
        | .error e => .error (.context "activity loop failed" (.failure e))
        | .ok _ => .ok ()

/-- The command that lets the controller work. -/
def controllerCommand (s : Surroundings) (words : List String) : Ending :=
  match ControllerCall.read words with
  | .error notice => .ofNotice notice
  | .ok call =>
    match runController s call with
    | .ok _ => ⟨exitOk, "", ""⟩
    | .error e => ⟨exitFailure, "", report e ++ "\n"⟩

end ClusterTuning.CommandLine
