import ClusterTuning.Cluster
import ClusterTuning.Experiment
import ClusterTuning.Failure

/-!
# ClusterTuning.Deployment

**Bringing a cluster to what manifests and an experiment describe.**

Every resource is looked up first. What is not there is created. Config maps and the experiment are
replaced where they are there; accounts, roles and bindings stay as they are. Each resource has one
attempt, and a failure of one does not keep the others from theirs.
-/

namespace ClusterTuning

/-- What was done about a resource. -/
inductive DeployAction where
  /-- It was not there and was created. -/
  | created
  /-- It was there and was replaced. -/
  | updated
  /-- It was there and stays as it was. -/
  | unchanged
deriving DecidableEq, Repr, Inhabited

/-- The word for what was done. -/
def DeployAction.name : DeployAction → String
  | .created => "created"
  | .updated => "updated"
  | .unchanged => "unchanged"

/-- What happened to the resources of a deployment. -/
structure DeployReport where
  /-- What was done, about the resources for which nothing failed. -/
  outcomes : List (ResourceKey × DeployAction) := []
  /-- What failed, for the others. -/
  errors : List Failure := []
deriving Repr, Inhabited

namespace DeployReport

/-- Did nothing fail? -/
def isSuccess (r : DeployReport) : Bool :=
  r.errors.isEmpty

/-- Append what happened to a resource. -/
def record (r : DeployReport) (key : ResourceKey) : Except Failure DeployAction → DeployReport
  | .ok action => { r with outcomes := r.outcomes ++ [(key, action)] }
  | .error e => { r with errors := r.errors ++ [e] }

end DeployReport

namespace Deployment

/-- The supporting kinds in the order in which they are deployed. -/
def supportingKinds : List ResourceKind :=
  [.serviceAccount, .clusterRole, .clusterRoleBinding, .configMap]

/-- Is a resource of the kind replaced where it is there? -/
def replaces : ResourceKind → Bool
  | .configMap | .experiment => true
  | _ => false

/-- Change the fields of the metadata of an object. Metadata that is no object stays. -/
def changeMetadata (change : List (String × Value) → List (String × Value)) (object : Value) :
    Value :=
  match object with
  | .object fields =>
    match Fields.get? "metadata" fields with
    | some (.object metadata) => .object (Fields.put "metadata" (.object (change metadata)) fields)
    | _ => object
  | _ => object

/-- Write the namespace in which an object was looked up into it, so that it is written to the same
place. -/
def pinNamespace (key : ResourceKey) (object : Value) : Value :=
  match key.inNamespace? with
  | some ns => changeMetadata (Fields.put "namespace" (.string ns)) object
  | none => object

/-- The version that a cluster gave to an object. -/
def resourceVersion? (existing : Value) : Option String :=
  ((existing.get? "metadata").bind fun metadata => metadata.get? "resourceVersion").bind Value.text?

/-- Take over the version of the object that is there, without which a replacement is refused. -/
def carryVersion (existing object : Value) : Value :=
  match resourceVersion? existing with
  | some version => changeMetadata (Fields.put "resourceVersion" (.string version)) object
  | none => object

/-- Lift an error of the cluster to a failure of an operation on a resource. -/
def failing {α : Type} (key : ResourceKey) (operation : String) :
    Except String α → Except Failure α
  | .ok a => .ok a
  | .error detail => .error (.deploy key.kind.label operation detail)

/-- Deploy one resource. -/
def deployOne (c : Cluster) (key : ResourceKey) (object : Value) :
    Except Failure DeployAction × Cluster :=
  if key.name = "" then
    (.error (.deploy key.kind.label "validate" "metadata.name is empty"), c)
  else
    let desired := pinNamespace key object
    match failing key "get" (c.get key) with
    | .error e => (.error e, c)
    | .ok none =>
      let (written, c) := c.create desired
      ((failing key "create" written).map fun _ => .created, c)
    | .ok (some existing) =>
      if replaces key.kind then
        let (written, c) := c.update (carryVersion existing desired)
        ((failing key "update" written).map fun _ => .updated, c)
      else (.ok .unchanged, c)

/-- Deploy one document and record what happened. -/
def step (state : DeployReport × Cluster) (doc : Document) : DeployReport × Cluster :=
  let key := ResourceKey.ofDocument doc
  let (outcome, c) := deployOne state.2 key doc.value
  (state.1.record key outcome, c)

/-- The documents that are deployed, in order: the supporting ones by kind, and then the
experiment. -/
def plan (set : ManifestSet) (e : Experiment) : List Document :=
  supportingKinds.flatMap (fun kind => set.ofKind kind) ++ [Document.ofValue e.toValue]

end Deployment

/-- Deploy the supporting resources of a manifest and an experiment. -/
def deployAll (c : Cluster) (set : ManifestSet) (e : Experiment) : DeployReport × Cluster :=
  (Deployment.plan set e).foldl Deployment.step ({}, c)

end ClusterTuning
