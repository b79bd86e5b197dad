import ClusterTuning.Json.Reader
import ClusterTuning.Json.Writer
import ClusterTuning.Patch.LeadingDot
import ClusterTuning.Selector
import ClusterTuning.Templating.Template
import ClusterTuning.Trial

/-!
# ClusterTuning.Patch

**Patches rendered for a trial.**

A patch template names a target and holds the text of a patch. Both may use what the trial assigns.
A text that is JSON already is rendered at its strings, so that an expression which is the whole of
a string can become a number or a truth value; any other text is rendered as a whole and read as
JSON afterwards. The rendered patch always bears the identity of its target.
-/

namespace ClusterTuning

/-- What the templates of a patch can refer to. -/
abbrev PatchContext := List (String × Templating.Datum)

/-- The context of a trial: what it assigns, under two names, and the trial itself. -/
def Trial.context (t : Trial) : PatchContext :=
  let assigned := Templating.Datum.ofValue (.object t.assignments)
  let self := Value.object [("Name", .string t.name), ("Namespace", .string t.namespace),
    ("Number", .ofNat t.number)]
  [("Parameters", assigned), ("Values", assigned), ("Trial", .ofValue self)]

/-- A rendered patch and what it is for. -/
structure RenderedPatch where
  /-- The key of the patch. -/
  key : String
  /-- The fields of the patch. -/
  fields : List (String × Value)
  /-- The documents it is for. -/
  target : Selector
deriving DecidableEq, Repr, Inhabited

/-- The patch as JSON text. -/
def RenderedPatch.body (p : RenderedPatch) : String :=
  Json.write (.object p.fields)

/-- Rendered patches in order. -/
abbrev PatchSet := List RenderedPatch

/-- The patch of a key. -/
def PatchSet.find? (key : String) (set : PatchSet) : Option RenderedPatch :=
  List.find? (fun p => p.key = key) set

namespace Patch

/-- Lift a fault of a template to a failure of the patch. -/
def failing {α : Type} (key : String) : Except Templating.Fault α → Except Failure α
  | .ok a => .ok a
  | .error fault => .error (.render key fault.message)

/-- Does the text hold the start of an expression? -/
def holdsExpression (text : String) : Bool :=
  Text.occursIn openBraces text.toList

/-- Does the text hold the start of a statement? -/
def holdsStatement (text : String) : Bool :=
  Text.occursIn ['{', '%'] text.toList

/-- Render text. Text without an expression or a statement stays as it is. -/
def renderText (key : String) (context : PatchContext) (text : String) :
    Except Failure String :=
  if holdsExpression text || holdsStatement text then
    failing key
      ((Templating.render context (withoutLeadingDots text.toList)).map String.ofList)
  else .ok text

/-- The value of an expression. What is undefined counts as nothing. -/
def renderExpression (key : String) (context : PatchContext) (expression : List Char) :
    Except Failure Value :=
  failing key
    (match Templating.valueOf context expression with
      | .ok d => d.toValue
      | .error fault => .error fault)

/-- The number or truth value of a text that is one expression with such a value. -/
def renderTyped? (key : String) (context : PatchContext) (text : String) :
    Except Failure (Option Value) :=
  match singleExpression? text.toList with
  | none => .ok none
  | some expression =>
    match renderExpression key context expression with
    | .error e => .error e
    | .ok (.number n) => .ok (some (.number n))
    | .ok (.bool b) => .ok (some (.bool b))
    | .ok _ => .ok none

/-- Render a string of a patch. -/
def renderString (key : String) (context : PatchContext) (text : String) :
    Except Failure Value :=
  if holdsExpression text then
    match renderTyped? key context text with
    | .error e => .error e
    | .ok (some v) => .ok v
    | .ok none => (renderText key context text).map .string
  else .ok (.string text)

/-- Render the name of a field. -/
def renderName (key : String) (context : PatchContext) (name : String) :
    Except Failure String :=
  if holdsExpression name then renderText key context name else .ok name

mutual

/-- Render the strings of a value, and the names of its fields. -/
def renderValue (key : String) (context : PatchContext) : Value → Except Failure Value
  | .string text => renderString key context text
  | .array items => (renderItems key context items).map .array
  | .object fields => (renderFields key context [] fields).map .object
  | v => .ok v

/-- Render the items of a value in order. -/
def renderItems (key : String) (context : PatchContext) :
    List Value → Except Failure (List Value)
  | [] => .ok []
  | v :: rest =>
    match renderValue key context v with
    | .error e => .error e
    | .ok v => (renderItems key context rest).map (v :: ·)

/-- Render fields in order and store them behind those already rendered. Of two fields whose names
become the same, the later one stays. -/
def renderFields (key : String) (context : PatchContext) (before : List (String × Value)) :
    List (String × Value) → Except Failure (List (String × Value))
  | [] => .ok before
  | (name, v) :: rest =>
    match renderName key context name with
    | .error e => .error e
    | .ok name =>
      match renderValue key context v with
      | .error e => .error e
      | .ok v => renderFields key context (Fields.put name v before) rest

end

/-- Render the text of a patch to the fields of an object. -/
def renderBody (key : String) (context : PatchContext) (text : String) :
    Except Failure (List (String × Value)) :=
  let rendered := match Json.read? text with
    | some skeleton => renderValue key context skeleton
    | none =>
      match renderText key context text with
      | .error e => .error e
      | .ok output =>
        match Json.read? output with
        | some v => .ok v
        | none => .error (.malformedPatch key jsonDetail)
  match rendered with
  | .error e => .error e
  | .ok (.object fields) => .ok fields
  | .ok other =>
    .error (.malformedPatch key ("expected a JSON object, got " ++ other.kindName))

/-- Is there nothing but blanks in the text? -/
def isBlankText (text : String) : Bool :=
  (Text.trim text.toList).isEmpty

/-- Render the target of a patch. Its kind and its name must not be blank. -/
def renderTarget (key : String) (context : PatchContext) (t : TargetRef) :
    Except Failure TargetRef := do
  let apiVersion ← renderText key context t.apiVersion
  let kind ← renderText key context t.kind
  let name ← renderText key context t.name
  let ns ← renderText key context t.namespace
  if isBlankText kind then throw (.emptyTarget key "kind")
  if isBlankText name then throw (.emptyTarget key "name")
  return { t with apiVersion := apiVersion, kind := kind, name := name, «namespace» := ns }

/-- Write the name and the namespace of a target into metadata. -/
def identifyMetadata (t : TargetRef) (metadata : List (String × Value)) : List (String × Value) :=
  let named := Fields.put "name" (.string t.name) metadata
  if t.namespace = "" then Fields.erase "namespace" named
  else Fields.put "namespace" (.string t.namespace) named

/-- Write the identity of a target into the fields of a patch. Metadata that is no object gives
way. -/
def identify (t : TargetRef) (fields : List (String × Value)) : List (String × Value) :=
  let metadata := ((Fields.get? "metadata" fields).bind Value.fields?).getD []
  let fields := Fields.put "apiVersion" (.string t.apiVersion) fields
  let fields := Fields.put "kind" (.string t.kind) fields
  Fields.put "metadata" (.object (identifyMetadata t metadata)) fields

/-- The key of the patch at a place. -/
def keyAt (index : Nat) : String :=
  "patch-" ++ String.ofList (Decimal.natDigits index)

/-- Render the patch at a place. -/
def renderOne (context : PatchContext) (index : Nat) (t : PatchTemplate) :
    Except Failure RenderedPatch :=
  match renderTarget (keyAt index) context t.targetRef with
  | .error e => .error e
  | .ok target =>
    match renderBody (keyAt index) context t.patch with
    | .error e => .error e
    | .ok fields => .ok ⟨keyAt index, identify target fields, Selector.ofTarget target⟩

/-- Render patches in order, of which the first stands at the place `index`. -/
def renderFrom (context : PatchContext) : Nat → List PatchTemplate → Except Failure PatchSet
  | _, [] => .ok []
  | index, t :: rest =>
    match renderOne context index t with
    | .error e => .error e
    | .ok p => (renderFrom context (index + 1) rest).map (p :: ·)

end Patch

/-- Render the patches of a trial. The first failure ends it. -/
def renderPatches (templates : List PatchTemplate) (trial : Trial) : Except Failure PatchSet :=
  Patch.renderFrom trial.context 0 templates

end ClusterTuning
