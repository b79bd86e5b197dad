import ClusterTuning.Experiment
import ClusterTuning.Text.Pieces

/-!
# ClusterTuning.Application

**Applications: which manifests make them up, and what they are tuned for.**

An application is what the generator of experiments is given. It is read from a manifest, or put
together from what the remote API knows of the application and of one of its scenarios.
-/

namespace ClusterTuning

/-- Labels of containers. -/
structure ContainerResources where
  /-- The labels in the order of their names. -/
  labels : List (String × String) := []
deriving DecidableEq, Repr, Inhabited

namespace ContainerResources

/-- Read the labels of containers. -/
def decode : Value → Decoded ContainerResources :=
  Decode.closedRecord "ContainerResources" <|
    (Decode.Schema.of ContainerResources.mk)
      |>.withDefault "labels" (Decode.dictionary Value.decodeText) []

/-- Labels of containers as a value. -/
def encode (r : ContainerResources) : Value :=
  .object (Encode.field "labels" (Encode.texts r.labels))

end ContainerResources

/-- What is tuned in an application besides what its scenarios say. -/
structure ApplicationParameters where
  /-- The containers whose resources are tuned. -/
  containerResources : Option ContainerResources := none
deriving DecidableEq, Repr, Inhabited

namespace ApplicationParameters

/-- Read the parameters of an application. -/
def decode : Value → Decoded ApplicationParameters :=
  Decode.closedRecord "ApplicationParameters" <|
    (Decode.Schema.of ApplicationParameters.mk)
      |>.withDefault "containerResources" (Decode.option ContainerResources.decode) none

/-- The parameters of an application as a value. -/
def encode (p : ApplicationParameters) : Value :=
  .object (Encode.optional "containerResources" ContainerResources.encode p.containerResources)

end ApplicationParameters

/-- A scenario or an objective of an application: a name with configuration that is passed on. -/
structure NamedConfig where
  /-- The name. -/
  name : String
  /-- The configuration. -/
  config : OtherFields := []
deriving Repr, Inhabited

namespace NamedConfig

/-- Read a name with configuration, as the record of the given description. -/
def decode (record : String) : Value → Decoded NamedConfig :=
  Decode.openRecord record <|
    (Decode.Schema.of NamedConfig.mk).required "name" Source.text

/-- A name with configuration as a value. -/
def encode (c : NamedConfig) : Value :=
  .object (Encode.field "name" (.string c.name) ++ c.config)

end NamedConfig

/-- An application. -/
structure Application where
  /-- The version of the API. -/
  apiVersion : String
  /-- The kind. -/
  kind : String
  /-- The metadata. -/
  metadata : ObjectMeta := {}
  /-- The paths of the manifests that make the application up. -/
  resources : List String := []
  /-- What is tuned besides. -/
  parameters : Option ApplicationParameters := none
  /-- The scenarios. -/
  scenarios : List NamedConfig := []
  /-- The objectives. -/
  objectives : List NamedConfig := []
  /-- All other fields. -/
  other : OtherFields := []
deriving Repr, Inhabited

/-- Selects the workloads whose container resources are tuned. -/
structure ContainerSelector where
  /-- The version of the API. -/
  apiVersion : String
  /-- The kind. -/
  kind : String
  /-- The labels the workloads have to carry, empty for all. -/
  labelSelector : String
deriving DecidableEq, Repr, Inhabited

namespace ContainerSelector

/-- A selector as a value. -/
def encode (s : ContainerSelector) : Value :=
  .object (Encode.field "apiVersion" (.string s.apiVersion) ++
    Encode.field "kind" (.string s.kind) ++ Encode.nonEmptyText "labelSelector" s.labelSelector)

end ContainerSelector

/-! ### Base names -/

/-- The last component of a path, if it names something. Components `.` do not count, and a path
that ends in `..` or is a root names nothing. -/
def baseName? (path : List Char) : Option (List Char) :=
  let parts := (Text.splitAt '/' path).filter fun part => !part.isEmpty && part != ['.']
  match parts.getLast? with
  | none => none
  | some part => if part = ['.', '.'] then none else some part

/-- The name under which the file at a path is stored: its base name, or the path itself when it has
none. -/
def storedName (path : String) : String :=
  String.ofList ((baseName? path.toList).getD path.toList)

namespace Application

/-- The version of the API of applications that are put together here. -/
def currentApiVersion : String := "apps.trialctl.dev/v1alpha1"

/-- Read an application. -/
def decode : Value → Decoded Application :=
  Decode.openRecord "Application" <|
    (((((((Decode.Schema.of Application.mk)
      |>.required "apiVersion" Source.text)
      |>.required "kind" Source.text)
      |>.withDefault "metadata" ObjectMeta.decode {})
      |>.withDefault "resources" (Decode.list Source.text) [])
      |>.withDefault "parameters" (Decode.option ApplicationParameters.decode) none)
      |>.withDefault "scenarios" (Decode.list (NamedConfig.decode "ScenarioSpec")) [])
      |>.withDefault "objectives" (Decode.list (NamedConfig.decode "Objective")) []

/-- The fields of an application. -/
def fields (a : Application) : List (String × Value) :=
  Encode.field "apiVersion" (.string a.apiVersion) ++ Encode.field "kind" (.string a.kind) ++
    Encode.field "metadata" a.metadata.encode ++
    Encode.nonEmptyList "resources" Value.string a.resources ++
    Encode.optional "parameters" ApplicationParameters.encode a.parameters ++
    Encode.nonEmptyList "scenarios" NamedConfig.encode a.scenarios ++
    Encode.nonEmptyList "objectives" NamedConfig.encode a.objectives ++ a.other

/-- An application as a value, with its fields in the order of declaration. -/
def encode (a : Application) : Value :=
  .object a.fields

/-- The names under which the manifests of the application are stored. -/
def resourceNames (a : Application) : List String :=
  a.resources.map storedName

/-- The container labels as a label selector. -/
def labelSelector (a : Application) : String :=
  match a.parameters.bind ApplicationParameters.containerResources with
  | none => ""
  | some r => Text.joinStrings "," (r.labels.map fun label => label.1 ++ "=" ++ label.2)

/-- The selectors of the workloads whose container resources are tuned. -/
def containerSelectors (a : Application) : List ContainerSelector :=
  ["Deployment", "StatefulSet"].map fun kind => ⟨"apps/v1", kind, a.labelSelector⟩

end Application

end ClusterTuning
