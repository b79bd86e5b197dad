import ClusterTuning.ApiVersion
import ClusterTuning.Data.Decode
import ClusterTuning.Data.Encode

/-!
# ClusterTuning.Experiment

**Experiments: tunable parameters, metrics and patch templates.**

Of the fields of an experiment only some are interpreted. All others are kept by name, so that an
experiment loses nothing when it is read and written again.
-/

namespace ClusterTuning

/-- Fields that a record keeps without interpreting them, in the order of their names. -/
abbrev OtherFields := List (String × Value)

/-! ### Metadata -/

/-- The metadata of an object. -/
structure ObjectMeta where
  /-- The name. -/
  name : String := ""
  /-- The namespace, empty when none is given. -/
  «namespace» : String := ""
  /-- All other fields. -/
  other : OtherFields := []
deriving Repr, Inhabited

namespace ObjectMeta

/-- Read metadata. -/
def decode {σ : Type} [Source σ] : σ → Decoded ObjectMeta :=
  Decode.openRecord "ObjectMeta" <|
    ((Decode.Schema.of ObjectMeta.mk)
      |>.withDefault "name" Source.text "")
      |>.withDefault "namespace" Source.text ""

/-- The fields of metadata. -/
def fields (m : ObjectMeta) : List (String × Value) :=
  Encode.field "name" (.string m.name) ++ Encode.nonEmptyText "namespace" m.namespace ++ m.other

/-- Metadata as a value. -/
def encode (m : ObjectMeta) : Value :=
  .object m.fields

end ObjectMeta

/-! ### Parameters and metrics -/

/-- An integer of an optional field. -/
def decodeInt64? {σ : Type} [Source σ] : σ → Decoded (Option Int) :=
  Decode.option (Source.integer .signed)

/-- A tunable parameter: a range of integers, or a choice among values. -/
structure Parameter where
  /-- The name. -/
  name : String
  /-- The least value. -/
  min : Option Int := none
  /-- The greatest value. -/
  max : Option Int := none
  /-- The value before any trial. -/
  baseline : Option Value := none
  /-- The values of a choice. -/
  values : List String := []
  /-- All other fields. -/
  other : OtherFields := []
deriving Repr, Inhabited

namespace Parameter

/-- Both bounds, when both are set. -/
def bounds (p : Parameter) : Option (Int × Int) :=
  match p.min, p.max with
  | some lo, some hi => some (lo, hi)
  | _, _ => none

/-- Read a parameter. -/
def decode {σ : Type} [Source σ] : σ → Decoded Parameter :=
  Decode.openRecord "Parameter" <|
    (((((Decode.Schema.of Parameter.mk)
      |>.required "name" Source.text)
      |>.withDefault "min" decodeInt64? none)
      |>.withDefault "max" decodeInt64? none)
      |>.withDefault "baseline" (Decode.option Source.value) none)
      |>.withDefault "values" (Decode.list Source.text) []

/-- The fields of a parameter. -/
def fields (p : Parameter) : List (String × Value) :=
  Encode.field "name" (.string p.name) ++ Encode.optional "min" Value.ofInt p.min ++
    Encode.optional "max" Value.ofInt p.max ++ Encode.optional "baseline" id p.baseline ++
    Encode.nonEmptyList "values" Value.string p.values ++ p.other

/-- A parameter as a value. -/
def encode (p : Parameter) : Value :=
  .object p.fields

end Parameter

/-- A metric by which trials are judged. -/
structure Metric where
  /-- The name. -/
  name : String
  /-- Is less better? -/
  minimize : Bool := false
  /-- How the metric is measured. -/
  query : Option String := none
  /-- All other fields. -/
  other : OtherFields := []
deriving Repr, Inhabited

namespace Metric

/-- Read a metric. -/
def decode {σ : Type} [Source σ] : σ → Decoded Metric :=
  Decode.openRecord "Metric" <|
    (((Decode.Schema.of Metric.mk)
      |>.required "name" Source.text)
      |>.withDefault "minimize" Source.flag false)
      |>.withDefault "query" (Decode.option Source.text) none

/-- The fields of a metric. -/
def fields (m : Metric) : List (String × Value) :=
  Encode.field "name" (.string m.name) ++ Encode.field "minimize" (.bool m.minimize) ++
    Encode.optional "query" Value.string m.query ++ m.other

/-- A metric as a value. -/
def encode (m : Metric) : Value :=
  .object m.fields

end Metric

/-! ### Patch templates -/

/-- The object that a patch is for. Every part may hold template text. -/
structure TargetRef where
  /-- The version of the API. -/
  apiVersion : String := ""
  /-- The kind. -/
  kind : String := ""
  /-- The name. -/
  name : String := ""
  /-- The namespace, empty when none is given. -/
  «namespace» : String := ""
  /-- All other fields. -/
  other : OtherFields := []
deriving Repr, Inhabited

namespace TargetRef

/-- Group and version of the API. -/
def groupVersion (t : TargetRef) : ApiVersion :=
  ApiVersion.ofString t.apiVersion

/-- Read a target. -/
def decode {σ : Type} [Source σ] : σ → Decoded TargetRef :=
  Decode.openRecord "TargetRef" <|
    ((((Decode.Schema.of TargetRef.mk)
      |>.withDefault "apiVersion" Source.text "")
      |>.withDefault "kind" Source.text "")
      |>.withDefault "name" Source.text "")
      |>.withDefault "namespace" Source.text ""

/-- The fields of a target. -/
def fields (t : TargetRef) : List (String × Value) :=
  Encode.field "apiVersion" (.string t.apiVersion) ++ Encode.field "kind" (.string t.kind) ++
    Encode.field "name" (.string t.name) ++ Encode.nonEmptyText "namespace" t.namespace ++ t.other

/-- A target as a value. -/
def encode (t : TargetRef) : Value :=
  .object t.fields

end TargetRef

/-- A patch body with template text, and the object it is for. -/
structure PatchTemplate where
  /-- The body. -/
  patch : String := ""
  /-- The object. -/
  targetRef : TargetRef := {}
  /-- All other fields. -/
  other : OtherFields := []
deriving Repr, Inhabited

namespace PatchTemplate

/-- Read a patch template. -/
def decode {σ : Type} [Source σ] : σ → Decoded PatchTemplate :=
  Decode.openRecord "PatchTemplate" <|
    ((Decode.Schema.of PatchTemplate.mk)
      |>.withDefault "patch" Source.text "")
      |>.withDefault "targetRef" TargetRef.decode {}

/-- The fields of a patch template. -/
def fields (t : PatchTemplate) : List (String × Value) :=
  Encode.field "patch" (.string t.patch) ++ Encode.field "targetRef" t.targetRef.encode ++ t.other

/-- A patch template as a value. -/
def encode (t : PatchTemplate) : Value :=
  .object t.fields

end PatchTemplate

/-! ### Experiments -/

/-- What an experiment varies, measures and patches. -/
structure ExperimentSpec where
  /-- The parameters. -/
  parameters : List Parameter := []
  /-- The metrics. -/
  metrics : List Metric := []
  /-- The patch templates. -/
  patches : List PatchTemplate := []
  /-- All other fields. -/
  other : OtherFields := []
deriving Repr, Inhabited

namespace ExperimentSpec

/-- Read a specification. -/
def decode {σ : Type} [Source σ] : σ → Decoded ExperimentSpec :=
  Decode.openRecord "ExperimentSpec" <|
    (((Decode.Schema.of ExperimentSpec.mk)
      |>.withDefault "parameters" (Decode.list Parameter.decode) [])
      |>.withDefault "metrics" (Decode.list Metric.decode) [])
      |>.withDefault "patches" (Decode.list PatchTemplate.decode) []

/-- The fields of a specification. -/
def fields (s : ExperimentSpec) : List (String × Value) :=
  Encode.nonEmptyList "parameters" Parameter.encode s.parameters ++
    Encode.nonEmptyList "metrics" Metric.encode s.metrics ++
    Encode.nonEmptyList "patches" PatchTemplate.encode s.patches ++ s.other

/-- A specification as a value. -/
def encode (s : ExperimentSpec) : Value :=
  .object s.fields

end ExperimentSpec

/-- An experiment. -/
structure Experiment where
  /-- The version of the API. -/
  apiVersion : String
  /-- The kind. -/
  kind : String
  /-- The metadata. -/
  metadata : ObjectMeta := {}
  /-- The specification. -/
  spec : ExperimentSpec := {}
  /-- All other fields. -/
  other : OtherFields := []
deriving Repr, Inhabited

namespace Experiment

/-- The parameter of the given name. -/
def parameter? (name : String) (e : Experiment) : Option Parameter :=
  e.spec.parameters.find? fun p => p.name = name

/-- Read an experiment. -/
def decode {σ : Type} [Source σ] : σ → Decoded Experiment :=
  Decode.openRecord "Experiment" <|
    ((((Decode.Schema.of Experiment.mk)
      |>.required "apiVersion" Source.text)
      |>.required "kind" Source.text)
      |>.withDefault "metadata" ObjectMeta.decode {})
      |>.withDefault "spec" ExperimentSpec.decode {}

/-- The fields of an experiment. -/
def fields (e : Experiment) : List (String × Value) :=
  Encode.field "apiVersion" (.string e.apiVersion) ++ Encode.field "kind" (.string e.kind) ++
    Encode.field "metadata" e.metadata.encode ++ Encode.field "spec" e.spec.encode ++ e.other

/-- An experiment as a value. -/
def toValue (e : Experiment) : Value :=
  (Value.object e.fields).canonical

end Experiment

end ClusterTuning
