import ClusterTuning.Data.Value
import ClusterTuning.Yaml.Printer

/-!
# ClusterTuning.Manifest

**Manifest documents and their kinds.**

A manifest is a sequence of documents, each an object that says by `kind` what it describes. A few
kinds are known and treated in their own way; all others keep the name they give.
-/

namespace ClusterTuning

/-- The kind of a resource. -/
inductive ResourceKind where
  /-- A description of an application that is to be tuned. -/
  | application
  /-- An experiment. -/
  | experiment
  /-- A service account. -/
  | serviceAccount
  /-- A role for the whole cluster. -/
  | clusterRole
  /-- A binding of a role for the whole cluster. -/
  | clusterRoleBinding
  /-- A config map. -/
  | configMap
  /-- Any other kind. -/
  | other (name : String)
deriving DecidableEq, Repr, Inhabited

namespace ResourceKind

/-- The kinds that have a constructor of their own. -/
def known : List ResourceKind :=
  [.application, .experiment, .serviceAccount, .clusterRole, .clusterRoleBinding, .configMap]

/-- The name of a kind, as documents give it. -/
def name : ResourceKind → String
  | .application => "Application"
  | .experiment => "Experiment"
  | .serviceAccount => "ServiceAccount"
  | .clusterRole => "ClusterRole"
  | .clusterRoleBinding => "ClusterRoleBinding"
  | .configMap => "ConfigMap"
  | .other name => name

/-- The kind of the given name. -/
def ofName (name : String) : ResourceKind :=
  (known.find? fun kind => kind.name = name).getD (.other name)

/-- Does the kind have a constructor of its own? -/
def isKnown : ResourceKind → Bool
  | .other _ => false
  | _ => true

/-- The words for a kind in messages about its deployment. -/
def label : ResourceKind → String
  | .application => "application"
  | .experiment => "experiment"
  | .serviceAccount => "service account"
  | .clusterRole => "cluster role"
  | .clusterRoleBinding => "cluster role binding"
  | .configMap => "config map"
  | .other _ => "resource"

/-- Resources of the whole cluster lie in no namespace. -/
def isClusterScoped : ResourceKind → Bool
  | .clusterRole | .clusterRoleBinding => true
  | _ => false

end ResourceKind

/-- A document of a manifest. -/
structure Document where
  /-- The kind, as the content gave it when the document was read. -/
  kind : ResourceKind
  /-- The content. -/
  value : Value
deriving DecidableEq, Repr, Inhabited

namespace Document

/-- The text that an object holds under a name, or the empty text. -/
def textAt (key : String) (v : Value) : String :=
  ((v.get? key).bind Value.text?).getD ""

/-- A document from its content. -/
def ofValue (v : Value) : Document :=
  ⟨ResourceKind.ofName (textAt "kind" v), v⟩

/-- The version of the API, or the empty text. -/
def apiVersion (doc : Document) : String :=
  textAt "apiVersion" doc.value

/-- A text of the metadata. -/
def metadataText? (field : String) (doc : Document) : Option String :=
  ((doc.value.get? "metadata").bind fun metadata => metadata.get? field).bind Value.text?

/-- The name, or the empty text. -/
def name (doc : Document) : String :=
  (doc.metadataText? "name").getD ""

/-- The namespace, unless it is empty. -/
def namespace? (doc : Document) : Option String :=
  (doc.metadataText? "namespace").filter fun text => text ≠ ""

/-- The namespace that a resource without one lies in. -/
def defaultNamespace : String := "default"

/-- The namespace in which the resource lies. -/
def effectiveNamespace (doc : Document) : String :=
  doc.namespace?.getD defaultNamespace

end Document

/-- The documents of one or several manifests, in order. -/
abbrev ManifestSet := List Document

namespace ManifestSet

/-- The documents of a kind, in order. -/
def ofKind (kind : ResourceKind) (set : ManifestSet) : List Document :=
  set.filter fun doc => doc.kind = kind

/-- The documents as YAML, with a mark between each two. -/
def toYaml (set : ManifestSet) : String :=
  Text.joinStrings "---\n" (set.map fun doc => Yaml.write doc.value)

end ManifestSet

end ClusterTuning
