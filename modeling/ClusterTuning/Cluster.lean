import ClusterTuning.Cluster.Resource

/-!
# ClusterTuning.Cluster

**A cluster as the objects it stores.**

A cluster answers three calls. Looking up an object fails where the cluster is out of reach, which
is not the same as finding nothing; creating refuses to replace an object, and updating refuses to
create one. An object that is written without a namespace goes to the namespace of the client.

## Main statements

* `find?_store` : after storing an object every other object is what it was.
* `updateCount_countUpdate` : counting an update leaves the counts of other kinds.
-/

namespace ClusterTuning

/-- The state of a cluster. -/
structure Cluster where
  /-- The objects it stores. -/
  objects : List (ObjectId × Value) := []
  /-- The kinds that it cannot look up. -/
  unreachable : List String := []
  /-- The kinds for which it rejects updates. -/
  conflicting : List String := []
  /-- How many updates of each kind it has accepted. -/
  updates : List (String × Nat) := []
  /-- The namespace of objects that are written without one, if it is not the default one. -/
  clientNamespace : Option String := none
deriving Repr, Inhabited

namespace Cluster

/-- What is stored for an object in a list. -/
def findIn (id : ObjectId) : List (ObjectId × Value) → Option Value
  | [] => none
  | (other, v) :: rest => if other = id then some v else findIn id rest

/-- Store an object in a list, in place of what was stored for it. -/
def storeIn (id : ObjectId) (object : Value) : List (ObjectId × Value) → List (ObjectId × Value)
  | [] => [(id, object)]
  | (other, v) :: rest =>
    if other = id then (id, object) :: rest
    else if id.precedes other then (id, object) :: (other, v) :: rest
    else (other, v) :: storeIn id object rest

/-- What the cluster stores for an object. -/
def find? (id : ObjectId) (c : Cluster) : Option Value :=
  findIn id c.objects

/-- Store an object, in place of what was stored for it. -/
def store (id : ObjectId) (object : Value) (c : Cluster) : Cluster :=
  { c with objects := storeIn id object c.objects }

/-- How many updates of a kind the cluster has accepted. -/
def updateCount (kind : String) (c : Cluster) : Nat :=
  (Fields.get? kind c.updates).getD 0

/-- Count an update. -/
def countUpdate (kind : String) (c : Cluster) : Cluster :=
  { c with updates := Fields.put kind (c.updateCount kind + 1) c.updates }

/-- The object that a value describes, in the namespace to which the client writes it. -/
def target (c : Cluster) (object : Value) : ObjectId :=
  let doc := Document.ofValue object
  let id := (ResourceKey.ofDocument doc).object
  if id.inNamespace?.isSome ∧ doc.namespace?.isNone then
    { id with inNamespace? := c.clientNamespace.orElse fun _ => id.inNamespace? }
  else id

/-- Look up an object. -/
def get (c : Cluster) (key : ResourceKey) : Except String (Option Value) :=
  if c.unreachable.contains key.kind.name then .error "connection refused"
  else .ok (c.find? key.object)

/-- Create an object that is not there. -/
def create (c : Cluster) (object : Value) : Except String Unit × Cluster :=
  let id := c.target object
  match c.find? id with
  | some _ => (.error (id.kind ++ " " ++ id.name ++ " already exists"), c)
  | none => (.ok (), c.store id object)

/-- Replace an object that is there. The update is counted as soon as it is not rejected. -/
def update (c : Cluster) (object : Value) : Except String Unit × Cluster :=
  let id := c.target object
  if c.conflicting.contains id.kind then (.error "conflict", c)
  else
    let counted := c.countUpdate id.kind
    match c.find? id with
    | some _ => (.ok (), counted.store id object)
    | none => (.error (id.kind ++ " " ++ id.name ++ " not found"), counted)

theorem findIn_storeIn (id other : ObjectId) (object : Value) (objects : List (ObjectId × Value)) :
    findIn other (storeIn id object objects) =
      if id = other then some object else findIn other objects := by
  induction objects with
  | nil => simp [storeIn, findIn]
  | cons entry rest ih =>
    obtain ⟨held, v⟩ := entry
    by_cases hh : held = id
    · subst hh
      by_cases ho : held = other <;> simp [storeIn, findIn, ho]
    · by_cases ho : id = other
      · subst ho
        by_cases hp : id.precedes held <;> simp [storeIn, findIn, hh, hp, ih]
      · by_cases hp : id.precedes held <;> simp [storeIn, findIn, hh, ho, hp, ih]

theorem find?_store (id other : ObjectId) (object : Value) (c : Cluster) :
    (c.store id object).find? other = if id = other then some object else c.find? other :=
  findIn_storeIn id other object c.objects

theorem updateCount_countUpdate (kind other : String) (c : Cluster) :
    (c.countUpdate kind).updateCount other =
      c.updateCount other + if kind = other then 1 else 0 := by
  rw [updateCount, countUpdate, Fields.get?_put]
  split
  · rename_i h
    rw [h, Option.getD_some]
  · rfl

end Cluster

end ClusterTuning
