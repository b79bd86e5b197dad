import ClusterTuning.Experiment

/-!
# ClusterTuning.ExperimentTemplate

**The part of an experiment that is edited remotely, and how edits come back.**

A scan publishes the projection of an experiment to its template. A run overlays the stored template
on the experiment that was generated anew: entries are found by name, what the template states wins,
and entries of the template alone are appended.
-/

namespace ClusterTuning

/-- The type of a parameter of a template. -/
inductive ParameterType where
  /-- A range of integers. -/
  | int
  /-- A choice among values. -/
  | categorical
deriving DecidableEq, Repr, Inhabited

namespace ParameterType

/-- The word for a type. -/
def name : ParameterType → String
  | .int => "int"
  | .categorical => "categorical"

/-- The type for a word. -/
def ofName (word : String) : Decoded ParameterType :=
  if word = "int" then .ok .int
  else if word = "categorical" then .ok .categorical
  else .error (.word word ["int", "categorical"])

/-- Read a type. -/
def decode : Value → Decoded ParameterType :=
  Decode.word ofName

end ParameterType

/-- The bounds of a range. -/
structure Bounds where
  /-- The least value. -/
  min : Int
  /-- The greatest value. -/
  max : Int
deriving DecidableEq, Repr, Inhabited

namespace Bounds

/-- Read bounds. -/
def decode : Value → Decoded Bounds :=
  Decode.closedRecord "Bounds" <|
    ((Decode.Schema.of Bounds.mk)
      |>.required "min" (Value.decodeInteger .signed))
      |>.required "max" (Value.decodeInteger .signed)

/-- Bounds as a value. -/
def encode (b : Bounds) : Value :=
  .object (Encode.field "min" (.ofInt b.min) ++ Encode.field "max" (.ofInt b.max))

end Bounds

/-- A parameter of a template. -/
structure TemplateParameter where
  /-- The name. -/
  name : String
  /-- The type. -/
  type : ParameterType := .int
  /-- The bounds of a range. -/
  bounds : Option Bounds := none
  /-- The value before any trial. -/
  baseline : Option Value := none
  /-- The values of a choice. -/
  values : List String := []
deriving Repr, Inhabited

namespace TemplateParameter

/-- Read a parameter. -/
def decode : Value → Decoded TemplateParameter :=
  Decode.closedRecord "TemplateParameter" <|
    (((((Decode.Schema.of TemplateParameter.mk)
      |>.required "name" Value.decodeText)
      |>.withDefault "type" ParameterType.decode .int)
      |>.withDefault "bounds" (Decode.option Bounds.decode) none)
      |>.withDefault "baseline" (Decode.option Source.value) none)
      |>.withDefault "values" (Decode.list Value.decodeText) []

/-- A parameter as a value. -/
def encode (p : TemplateParameter) : Value :=
  .object (Encode.field "name" (.string p.name) ++ Encode.field "type" (.string p.type.name) ++
    Encode.optional "bounds" Bounds.encode p.bounds ++ Encode.optional "baseline" id p.baseline ++
    Encode.nonEmptyList "values" Value.string p.values)

/-- The projection of a parameter: a choice when it has values, and a range otherwise, whose bounds
count only when both are set. -/
def ofParameter (p : Parameter) : TemplateParameter :=
  if p.values.isEmpty then
    { name := p.name, type := .int, bounds := p.bounds.map fun b => ⟨b.1, b.2⟩,
      baseline := p.baseline }
  else { name := p.name, type := .categorical, baseline := p.baseline, values := p.values }

/-- Overlay what is stored on a parameter. What is not stored stays. -/
def overlay (stored : TemplateParameter) (p : Parameter) : Parameter :=
  { p with
    min := match stored.bounds with
      | some b => some b.min
      | none => p.min
    max := match stored.bounds with
      | some b => some b.max
      | none => p.max
    baseline := stored.baseline.orElse fun _ => p.baseline
    values := if stored.values.isEmpty then p.values else stored.values }

end TemplateParameter

/-- A metric of a template. -/
structure TemplateMetric where
  /-- The name. -/
  name : String
  /-- Is less better? -/
  minimize : Bool := false
  /-- How the metric is measured. -/
  query : Option String := none
deriving DecidableEq, Repr, Inhabited

namespace TemplateMetric

/-- Read a metric. -/
def decode : Value → Decoded TemplateMetric :=
  Decode.closedRecord "TemplateMetric" <|
    (((Decode.Schema.of TemplateMetric.mk)
      |>.required "name" Value.decodeText)
      |>.withDefault "minimize" Value.decodeFlag false)
      |>.withDefault "query" (Decode.option Value.decodeText) none

/-- A metric as a value. -/
def encode (m : TemplateMetric) : Value :=
  .object (Encode.field "name" (.string m.name) ++ Encode.field "minimize" (.bool m.minimize) ++
    Encode.optional "query" Value.string m.query)

/-- The projection of a metric. -/
def ofMetric (m : Metric) : TemplateMetric :=
  ⟨m.name, m.minimize, m.query⟩

/-- Overlay what is stored on a metric. The direction always counts, a query only when stored. -/
def overlay (stored : TemplateMetric) (m : Metric) : Metric :=
  { m with minimize := stored.minimize, query := stored.query.orElse fun _ => m.query }

end TemplateMetric

/-- The template of an experiment. -/
structure ExperimentTemplate where
  /-- The parameters. -/
  parameters : List TemplateParameter := []
  /-- The metrics. -/
  metrics : List TemplateMetric := []
deriving Repr, Inhabited

/-- Change the first entry of a name, or append the change of a fresh entry. -/
def overlayByName {α : Type} (nameOf : α → String) (name : String) (fresh : α) (change : α → α) :
    List α → List α
  | [] => [change fresh]
  | a :: rest =>
    if nameOf a = name then change a :: rest
    else a :: overlayByName nameOf name fresh change rest

namespace ExperimentTemplate

/-- Read a template. -/
def decode : Value → Decoded ExperimentTemplate :=
  Decode.closedRecord "ExperimentTemplate" <|
    ((Decode.Schema.of ExperimentTemplate.mk)
      |>.withDefault "parameters" (Decode.list TemplateParameter.decode) [])
      |>.withDefault "metrics" (Decode.list TemplateMetric.decode) []

/-- A template as a value. -/
def encode (t : ExperimentTemplate) : Value :=
  .object (Encode.field "parameters" (Encode.list TemplateParameter.encode t.parameters) ++
    Encode.field "metrics" (Encode.list TemplateMetric.encode t.metrics))

/-- The projection of an experiment. -/
def ofExperiment (e : Experiment) : ExperimentTemplate :=
  ⟨e.spec.parameters.map .ofParameter, e.spec.metrics.map .ofMetric⟩

/-- Overlay stored parameters in turn. -/
def overlayParameters (stored : List TemplateParameter) (ps : List Parameter) : List Parameter :=
  stored.foldl (fun ps s => overlayByName Parameter.name s.name { name := s.name } s.overlay ps) ps

/-- Overlay stored metrics in turn. -/
def overlayMetrics (stored : List TemplateMetric) (ms : List Metric) : List Metric :=
  stored.foldl (fun ms s => overlayByName Metric.name s.name { name := s.name } s.overlay ms) ms

/-- Overlay a stored template on an experiment. -/
def overlay (t : ExperimentTemplate) (e : Experiment) : Experiment :=
  { e with spec := { e.spec with
    parameters := overlayParameters t.parameters e.spec.parameters
    metrics := overlayMetrics t.metrics e.spec.metrics } }

end ExperimentTemplate

end ClusterTuning
