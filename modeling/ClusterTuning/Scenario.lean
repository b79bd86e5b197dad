import ClusterTuning.Application
import ClusterTuning.Failure

/-!
# ClusterTuning.Scenario

**Scenarios and applications as the remote API stores them.**

A scenario links to the application that it belongs to and to the place of its template. `assemble`
puts an application and one of its scenarios together into what the generator is given.
-/

namespace ClusterTuning

/-- A link. -/
structure Link where
  /-- What it leads to. -/
  rel : String
  /-- Where it leads. -/
  href : String
deriving DecidableEq, Repr, Inhabited

namespace Link

/-- Read a link. -/
def decode : Value → Decoded Link :=
  Decode.closedRecord "Link" <|
    ((Decode.Schema.of Link.mk)
      |>.required "rel" Value.decodeText)
      |>.required "href" Value.decodeText

/-- A link as a value. -/
def encode (l : Link) : Value :=
  .object (Encode.field "rel" (.string l.rel) ++ Encode.field "href" (.string l.href))

/-- The relation of a scenario to its application. -/
def up : String := "up"

/-- The relation of a scenario to its template. -/
def template : String := "template"

end Link

/-- A scenario. -/
structure Scenario where
  /-- The name. -/
  name : String
  /-- The names of the objectives. -/
  objectives : List String := []
  /-- The configuration of the load. -/
  configuration : Option Value := none
  /-- The links. -/
  links : List Link := []
deriving Repr, Inhabited

namespace Scenario

/-- Read a scenario. -/
def decode : Value → Decoded Scenario :=
  Decode.closedRecord "Scenario" <|
    ((((Decode.Schema.of Scenario.mk)
      |>.required "name" Value.decodeText)
      |>.withDefault "objectives" (Decode.list Value.decodeText) [])
      |>.withDefault "configuration" (Decode.option Source.value) none)
      |>.withDefault "links" (Decode.list Link.decode) []

/-- A scenario as a value. -/
def encode (s : Scenario) : Value :=
  .object (Encode.field "name" (.string s.name) ++
    Encode.nonEmptyList "objectives" Value.string s.objectives ++
    Encode.optional "configuration" id s.configuration ++
    Encode.field "links" (Encode.list Link.encode s.links))

/-- Where the first link of a relation leads that leads anywhere. -/
def link? (rel : String) (s : Scenario) : Option String :=
  (s.links.find? fun l => l.rel = rel ∧ l.href ≠ "").map Link.href

/-- Where a link leads that has to be there. -/
def requireLink (rel what : String) (s : Scenario) : Except Failure String :=
  match s.link? rel with
  | some href => .ok href
  | none => .error (.resolution ("no matching " ++ what ++ " URL for scenario " ++ s.name))

end Scenario

/-- An application as the remote API stores it. -/
structure StoredApplication where
  /-- The name. -/
  name : String
  /-- The namespace, empty when none is given. -/
  «namespace» : String := ""
  /-- The paths of the manifests. -/
  resources : List String := []
  /-- What is tuned besides. -/
  parameters : Option ApplicationParameters := none
  /-- The names of the objectives. -/
  objectives : List String := []
deriving DecidableEq, Repr, Inhabited

namespace StoredApplication

/-- Read an application of the remote API. -/
def decode : Value → Decoded StoredApplication :=
  Decode.closedRecord "ApiApplication" <|
    (((((Decode.Schema.of StoredApplication.mk)
      |>.required "name" Value.decodeText)
      |>.withDefault "namespace" Value.decodeText "")
      |>.withDefault "resources" (Decode.list Value.decodeText) [])
      |>.withDefault "parameters" (Decode.option ApplicationParameters.decode) none)
      |>.withDefault "objectives" (Decode.list Value.decodeText) []

/-- An application of the remote API as a value. -/
def encode (a : StoredApplication) : Value :=
  .object (Encode.field "name" (.string a.name) ++ Encode.field "namespace" (.string a.namespace) ++
    Encode.field "resources" (Encode.list Value.string a.resources) ++
    Encode.optional "parameters" ApplicationParameters.encode a.parameters ++
    Encode.field "objectives" (Encode.list Value.string a.objectives))

/-- The application with one of its scenarios. The objectives of the scenario count, and those of
the application where the scenario has none. -/
def assemble (app : StoredApplication) (scenario : Scenario) : Application where
  apiVersion := Application.currentApiVersion
  kind := "Application"
  metadata := ⟨app.name, app.namespace, []⟩
  resources := app.resources
  parameters := app.parameters
  scenarios := [⟨scenario.name, ((scenario.configuration.bind Value.fields?).getD [])⟩]
  objectives :=
    (if scenario.objectives.isEmpty then app.objectives else scenario.objectives).map fun name =>
      ⟨name, []⟩

end StoredApplication

end ClusterTuning
