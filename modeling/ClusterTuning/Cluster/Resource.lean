import ClusterTuning.ApiVersion
import ClusterTuning.Manifest

/-!
# ClusterTuning.Cluster.Resource

**How an object of a cluster is identified.**

An object is known by its kind, its name and, unless it belongs to the whole cluster, its namespace.
A key also keeps the version of the API that the document asks for, which a client needs to find the
object but which does not tell objects apart.
-/

namespace ClusterTuning

/-- What a document describes. -/
structure ResourceKey where
  /-- The kind. -/
  kind : ResourceKind
  /-- The version of the API. -/
  apiVersion : String
  /-- The name. -/
  name : String
  /-- The namespace, unless the object belongs to the whole cluster. -/
  inNamespace? : Option String
deriving DecidableEq, Repr, Inhabited

namespace ResourceKey

/-- The key of a document. -/
def ofDocument (doc : Document) : ResourceKey where
  kind := doc.kind
  apiVersion := doc.apiVersion
  name := doc.name
  inNamespace? := if doc.kind.isClusterScoped then none else some doc.effectiveNamespace

/-- The kind with the version and the group of its API, where there is a group. -/
def qualifiedType (key : ResourceKey) : String :=
  let version := ApiVersion.ofString key.apiVersion
  if version.group = "" then key.kind.name
  else key.kind.name ++ "." ++ version.version ++ "." ++ version.group

/-- The words for the object in messages. -/
def display (key : ResourceKey) : String :=
  match key.inNamespace? with
  | some ns => key.kind.name ++ " " ++ ns ++ "/" ++ key.name
  | none => key.kind.name ++ " " ++ key.name

end ResourceKey

/-- What tells objects of a cluster apart. -/
structure ObjectId where
  /-- The name of the kind. -/
  kind : String
  /-- The namespace, unless the object belongs to the whole cluster. -/
  inNamespace? : Option String
  /-- The name. -/
  name : String
deriving DecidableEq, Repr, Inhabited

/-- The object that a key is about. -/
def ResourceKey.object (key : ResourceKey) : ObjectId :=
  ⟨key.kind.name, key.inNamespace?, key.name⟩

namespace ObjectId

/-- The order of objects without a namespace before those with one. -/
def namespacePrecedes : Option String → Option String → Bool
  | none, some _ => true
  | some a, some b => Text.precedes a b
  | _, none => false

/-- The order of objects: by kind, then by namespace, then by name. -/
def precedes (a b : ObjectId) : Bool :=
  if a.kind ≠ b.kind then Text.precedes a.kind b.kind
  else if a.inNamespace? ≠ b.inNamespace? then namespacePrecedes a.inNamespace? b.inNamespace?
  else Text.precedes a.name b.name

end ObjectId

end ClusterTuning
