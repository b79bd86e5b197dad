import ClusterTuning.Data.Decode
import ClusterTuning.Data.Encode
import ClusterTuning.Directory
import ClusterTuning.Failure
import ClusterTuning.Text.Blank
import ClusterTuning.Toml.Reader

/-!
# ClusterTuning.Settings

**The settings of the commands.**

Settings come from a TOML file. Every section and every setting has a default, so that a file that
is missing counts as one that says nothing; names that are not known are skipped. Settings that
cannot work are refused before anything else is done.
-/

namespace ClusterTuning

/-- How the remote API is reached. -/
structure ApiSettings where
  /-- Its address. An empty one is none. -/
  address : String := ""
  /-- What is shown to be let in. -/
  token : Option String := none
  /-- The seconds that a call may take. -/
  timeout : Nat := 30
  /-- The seconds between two looks at the activities. -/
  pollInterval : Nat := 5
deriving DecidableEq, Repr, Inhabited

/-- How manifests are generated. -/
structure GeneratorSettings where
  /-- The command: a program and its arguments. -/
  command : List String := ["generate-experiment", "-f", "-"]
  /-- The seconds that it may take. -/
  timeout : Nat := 120
  /-- How many bytes of each of its outputs are kept. -/
  outputLimit : Nat := 4 * 1024 * 1024
deriving DecidableEq, Repr, Inhabited

/-- How the cluster is reached. -/
structure KubectlSettings where
  /-- The command: a program and its first arguments. -/
  command : List String := ["kubectl"]
  /-- The seconds that a call may take. -/
  timeout : Nat := 60
deriving DecidableEq, Repr, Inhabited

/-- How the controller works. -/
structure ControllerSettings where
  /-- How many activities may wait. -/
  activityBuffer : Nat := 16
  /-- How many reports may wait. -/
  reportBuffer : Nat := 64
  /-- The address to listen at. -/
  bind : String := "127.0.0.1"
  /-- The port to listen at. -/
  port : Nat := 3001
deriving DecidableEq, Repr, Inhabited

/-- All settings. -/
structure Settings where
  /-- How the remote API is reached. -/
  api : ApiSettings := {}
  /-- How manifests are generated. -/
  generator : GeneratorSettings := {}
  /-- How the cluster is reached. -/
  kubectl : KubectlSettings := {}
  /-- How the controller works. -/
  controller : ControllerSettings := {}
deriving DecidableEq, Repr, Inhabited

/-! ### Reading -/

/-- A natural number of sixty-four bits. -/
def Decode.natural (v : Value) : Decoded Nat :=
  (v.decodeInteger .unsigned).map Int.toNat

/-- The number of a port. -/
def Decode.portNumber (v : Value) : Decoded Nat :=
  match natural v with
  | .error e => .error e
  | .ok n => if n < twoTo 16 then .ok n else .error (.range v "u16")

/-- A command: strings in order. -/
def Decode.commandWords : Value → Decoded (List String) :=
  list Value.decodeText

/-- A section, or the list of its settings in order. What follows in a list is skipped. -/
def Decode.settingsOf {α : Type} (name : String) (schema : Schema Value α) (v : Value) :
    Decoded α :=
  match v with
  | .array items => closedRecord name schema (.array (items.take schema.names.length))
  | v => closedRecord name schema v

open Decode in
/-- Read how the remote API is reached. -/
def ApiSettings.decode (v : Value) : Decoded ApiSettings :=
  let absent : ApiSettings := {}
  settingsOf "api" ((Schema.of ApiSettings.mk)
    |>.withDefault "address" Value.decodeText absent.address
    |>.withDefault "token" (option Value.decodeText) absent.token
    |>.withDefault "timeout_secs" natural absent.timeout
    |>.withDefault "poll_interval_secs" natural absent.pollInterval) v

open Decode in
/-- Read how manifests are generated. -/
def GeneratorSettings.decode (v : Value) : Decoded GeneratorSettings :=
  let absent : GeneratorSettings := {}
  settingsOf "generator" ((Schema.of GeneratorSettings.mk)
    |>.withDefault "command" commandWords absent.command
    |>.withDefault "timeout_secs" natural absent.timeout
    |>.withDefault "output_limit_bytes" natural absent.outputLimit) v

open Decode in
/-- Read how the cluster is reached. -/
def KubectlSettings.decode (v : Value) : Decoded KubectlSettings :=
  let absent : KubectlSettings := {}
  settingsOf "kubectl" ((Schema.of KubectlSettings.mk)
    |>.withDefault "command" commandWords absent.command
    |>.withDefault "timeout_secs" natural absent.timeout) v

open Decode in
/-- Read how the controller works. -/
def ControllerSettings.decode (v : Value) : Decoded ControllerSettings :=
  let absent : ControllerSettings := {}
  settingsOf "controller" ((Schema.of ControllerSettings.mk)
    |>.withDefault "activity_buffer" natural absent.activityBuffer
    |>.withDefault "report_buffer" natural absent.reportBuffer
    |>.withDefault "bind" Value.decodeText absent.bind
    |>.withDefault "port" portNumber absent.port) v

open Decode in
/-- Read settings. -/
def Settings.decode (v : Value) : Decoded Settings :=
  settingsOf "settings" ((Schema.of Settings.mk)
    |>.withDefault "api" ApiSettings.decode {}
    |>.withDefault "generator" GeneratorSettings.decode {}
    |>.withDefault "kubectl" KubectlSettings.decode {}
    |>.withDefault "controller" ControllerSettings.decode {}) v

/-! ### Checking -/

/-- Why settings are refused. -/
inductive SettingsFault where
  /-- A number has to be more than zero. -/
  | zero (setting : String)
  /-- A command lacks its program. -/
  | noProgram (setting : String)
  /-- A buffer holds nothing. -/
  | noBuffer
deriving DecidableEq, Repr

/-- The message for a fault. -/
def SettingsFault.message : SettingsFault → String
  | .zero setting => setting ++ " must be > 0"
  | .noProgram setting => setting ++ " must be a non-empty array"
  | .noBuffer => "controller channel buffers must be > 0"

namespace Settings

/-- Does a command lack its program? -/
def lacksProgram : List String → Bool
  | [] => true
  | program :: _ => program.toList.all Text.isBlank

/-- All that can be wrong with settings, in the order in which it is looked for. -/
def checks (s : Settings) : List (Bool × SettingsFault) := [
  (s.api.timeout == 0, .zero "api.timeout_secs"),
  (s.api.pollInterval == 0, .zero "api.poll_interval_secs"),
  (s.generator.timeout == 0, .zero "generator.timeout_secs"),
  (s.generator.outputLimit == 0, .zero "generator.output_limit_bytes"),
  (lacksProgram s.generator.command, .noProgram "generator.command"),
  (lacksProgram s.kubectl.command, .noProgram "kubectl.command"),
  (s.kubectl.timeout == 0, .zero "kubectl.timeout_secs"),
  (s.controller.activityBuffer == 0 || s.controller.reportBuffer == 0, .noBuffer)]

/-- The first fault of settings. -/
def fault? (s : Settings) : Option SettingsFault :=
  (s.checks.find? Prod.fst).map Prod.snd

/-- Settings with another address of the remote API, where one is given. -/
def withAddress (address : Option String) (s : Settings) : Settings :=
  match address with
  | none => s
  | some address => { s with api := { s.api with address := address } }

/-- The path of the settings where none is given. -/
def defaultPath : String := "trialctl.toml"

/-- The settings that the text of a file makes, before they are checked. -/
def ofBytes (path : String) (data : Bytes) : Except Trouble Settings :=
  match Text.decode? data with
  | none => .error (.context ("read " ++ path) (.plain "stream did not contain valid UTF-8"))
  | some text =>
    match (Toml.read? text).map decode with
    | some (.ok s) => .ok s
    | _ => .error (.context ("parse " ++ path) (.plain tomlDetail))

/-- Load settings from the file at a path. -/
def load (reader : FileReader) (path : String) : Except Trouble Settings :=
  let found : Except Trouble Settings :=
    match reader path with
    | .ok data => ofBytes path data
    | .error .notFound => .ok {}
    | .error e => .error (.context ("read " ++ path) (.plain e.message))
  match found with
  | .error e => .error e
  | .ok s =>
    match s.fault? with
    | none => .ok s
    | some fault => .error (.context ("validate " ++ path) (.plain fault.message))

/-! ### Writing -/

/-- Settings as a value. A token is only written where there is one. -/
def encode (s : Settings) : Value :=
  .object [
    ("api", .object (Encode.field "address" (.string s.api.address) ++
      Encode.optional "token" Value.string s.api.token ++
      Encode.field "timeout_secs" (.ofNat s.api.timeout) ++
      Encode.field "poll_interval_secs" (.ofNat s.api.pollInterval))),
    ("generator", .object [
      ("command", .ofStrings s.generator.command),
      ("timeout_secs", .ofNat s.generator.timeout),
      ("output_limit_bytes", .ofNat s.generator.outputLimit)]),
    ("kubectl", .object [
      ("command", .ofStrings s.kubectl.command),
      ("timeout_secs", .ofNat s.kubectl.timeout)]),
    ("controller", .object [
      ("activity_buffer", .ofNat s.controller.activityBuffer),
      ("report_buffer", .ofNat s.controller.reportBuffer),
      ("bind", .string s.controller.bind),
      ("port", .ofNat s.controller.port)])]

end Settings

end ClusterTuning
