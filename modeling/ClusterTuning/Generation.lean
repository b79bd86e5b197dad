import ClusterTuning.Json.Writer
import ClusterTuning.Orchestration
import ClusterTuning.Program
import ClusterTuning.Settings
import ClusterTuning.Yaml.Printer

/-!
# ClusterTuning.Generation

**Making manifests with a command.**

The command reads the application as YAML, finds in its environment which resources to look at, and
writes manifests. What it wrote counts only when the run is a success.
-/

namespace ClusterTuning.Generation

/-- The variable that names the resources to look at. -/
def selectorsVariable : String := "TRIALCTL_CONTAINER_SELECTORS"

/-- A failure to make manifests. -/
def failure (detail : String) : Failure :=
  .render "generator" detail

/-- How the command is called for an application. -/
def invocation (program : String) (args : List String) (app : Application) :
    Program.Invocation where
  program := program
  args := args
  stdin := some (Text.encode (Yaml.write app.encode))
  environment :=
    [(selectorsVariable, Json.write (Encode.list ContainerSelector.encode app.containerSelectors))]

/-- The output of a run that is a success. -/
def outputOf (program : String) (run : Except String Program.CommandOutput) :
    Except Failure Bytes :=
  match run.bind (Program.CommandOutput.ensureSuccess program) with
  | .ok output => .ok output.stdout.bytes
  | .error message => .error (failure message)

/-- The generator that a command makes. -/
def commandGenerator (settings : GeneratorSettings) (launch : Program.Launcher) : Generator :=
  fun app =>
    match settings.command with
    | [] => .error (failure "generator command is empty")
    | program :: args =>
      outputOf program
        (Program.runBounded launch settings.outputLimit (invocation program args app))

end ClusterTuning.Generation
