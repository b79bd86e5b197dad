import ClusterTuning.Experiment
import ClusterTuning.Manifest

/-!
# ClusterTuning.Selector

**Which documents a patch is for.**
-/

namespace ClusterTuning

/-- Selects documents by the parts that are not empty. -/
structure Selector where
  /-- The group of the API. -/
  group : String := ""
  /-- The version of the API. -/
  version : String := ""
  /-- The kind. -/
  kind : String := ""
  /-- The name. -/
  name : String := ""
  /-- The namespace. -/
  «namespace» : String := ""
deriving DecidableEq, Repr, Inhabited

namespace Selector

/-- The selector for a target without template text. -/
def ofTarget (t : TargetRef) : Selector :=
  ⟨t.groupVersion.group, t.groupVersion.version, t.kind, t.name, t.namespace⟩

/-- An empty part accepts everything. -/
def accepts (want have_ : String) : Bool :=
  want == "" || want == have_

/-- Does the selector select the document? A document without a namespace lies in the default
one. -/
def selects (s : Selector) (doc : Document) : Bool :=
  let version := ApiVersion.ofString doc.apiVersion
  accepts s.group version.group && accepts s.version version.version &&
    accepts s.kind doc.kind.name && accepts s.name doc.name &&
    accepts s.namespace doc.effectiveNamespace

/-- Group and version in one text. -/
def apiVersion (s : Selector) : String :=
  ApiVersion.toString ⟨s.group, s.version⟩

/-- A selector as a value. -/
def encode (s : Selector) : Value :=
  .object [("group", .string s.group), ("version", .string s.version), ("kind", .string s.kind),
    ("name", .string s.name), ("namespace", .string s.namespace)]

end Selector

end ClusterTuning
