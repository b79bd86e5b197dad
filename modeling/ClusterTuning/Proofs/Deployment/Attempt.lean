import ClusterTuning.Proofs.Deployment.Written

/-!
# ClusterTuning.Proofs.Deployment.Attempt

**How an attempt to deploy a document ends.**

An attempt has six endings (`Attempt`), each with the conditions under which it comes about, and
`exists_attempt` says that there is no seventh. Only two of them write, and both write to the object
that the document is about: creating never meets an object there, and replacing never misses one,
because the cluster writes to the place where the deployment has looked.

What one step or a whole run does is read off these endings. Nothing behind this module opens
`deployOne` again.
-/

namespace ClusterTuning.Deployment

variable {c : Cluster} {doc : Document}

/-- How an attempt to deploy a document ends, and what it leaves of the cluster. -/
inductive Attempt (c : Cluster) (doc : Document) :
    Except Failure DeployAction → Cluster → Prop where
  /-- A document without a name is not looked up. -/
  | unnamed (unnamed : doc.name = "") :
      Attempt c doc (.error (.deploy doc.kind.label "validate" "metadata.name is empty")) c
  /-- The object cannot be looked up. -/
  | unreachable (deployable : Deployable doc)
      (refused : c.unreachable.contains doc.kind.name = true) :
      Attempt c doc (.error (.deploy doc.kind.label "get" "connection refused")) c
  /-- The object is not there and is created. -/
  | created (deployable : Deployable doc)
      (reached : c.unreachable.contains doc.kind.name = false)
      (absent : c.find? (ResourceKey.ofDocument doc).object = none) :
      Attempt c doc (.ok .created)
        (c.store (ResourceKey.ofDocument doc).object (written doc none))
  /-- The object is there and is only ever created. -/
  | kept {live : Value} (deployable : Deployable doc)
      (reached : c.unreachable.contains doc.kind.name = false)
      (present : c.find? (ResourceKey.ofDocument doc).object = some live)
      (creates : replaces doc.kind = false) : Attempt c doc (.ok .unchanged) c
  /-- The object is there and cannot be replaced. -/
  | conflicting {live : Value} (deployable : Deployable doc)
      (reached : c.unreachable.contains doc.kind.name = false)
      (present : c.find? (ResourceKey.ofDocument doc).object = some live)
      (upserts : replaces doc.kind = true)
      (refused : c.conflicting.contains doc.kind.name = true) :
      Attempt c doc (.error (.deploy doc.kind.label "update" "conflict")) c
  /-- The object is there and is replaced. -/
  | updated {live : Value} (deployable : Deployable doc)
      (reached : c.unreachable.contains doc.kind.name = false)
      (present : c.find? (ResourceKey.ofDocument doc).object = some live)
      (upserts : replaces doc.kind = true)
      (accepted : c.conflicting.contains doc.kind.name = false) :
      Attempt c doc (.ok .updated)
        ((c.countUpdate doc.kind.name).store (ResourceKey.ofDocument doc).object
          (written doc (resourceVersion? live)))

theorem create_written (hdoc : Deployable doc)
    (habsent : c.find? (ResourceKey.ofDocument doc).object = none) :
    c.create (written doc none) =
      (.ok (), c.store (ResourceKey.ofDocument doc).object (written doc none)) := by
  simp only [Cluster.create, target_written hdoc, habsent]

/-- Where the object is there, the update is refused or it counts and stores what was written. -/
theorem update_written (hdoc : Deployable doc) (version : Option String) {live : Value}
    (hpresent : c.find? (ResourceKey.ofDocument doc).object = some live) :
    c.update (written doc version) =
      if c.conflicting.contains doc.kind.name = true then (.error "conflict", c)
      else (.ok (), (c.countUpdate doc.kind.name).store (ResourceKey.ofDocument doc).object
        (written doc version)) := by
  have hkind : (ResourceKey.ofDocument doc).object.kind = doc.kind.name := rfl
  simp only [Cluster.update, target_written hdoc, hpresent, hkind]

/-- Every attempt ends in one of the six ways. -/
theorem exists_attempt (hdoc : doc.IsRead) (c : Cluster) :
    ∃ outcome after, deployOne c (ResourceKey.ofDocument doc) doc.value = (outcome, after) ∧
      Attempt c doc outcome after := by
  unfold deployOne
  split
  · rename_i hname
    exact ⟨_, _, rfl, .unnamed hname⟩
  rename_i hname
  have hdeployable : Deployable doc := ⟨hdoc, hname⟩
  cases hreached : c.unreachable.contains doc.kind.name with
  | true =>
      have hget : c.get (ResourceKey.ofDocument doc) = .error "connection refused" :=
        if_pos hreached
      rw [hget]
      exact ⟨_, _, rfl, .unreachable hdeployable hreached⟩
  | false =>
      have hget : c.get (ResourceKey.ofDocument doc) =
          .ok (c.find? (ResourceKey.ofDocument doc).object) :=
        if_neg (Bool.eq_false_iff.mp hreached)
      rw [hget]
      cases hfind : c.find? (ResourceKey.ofDocument doc).object with
      | none =>
          have hcreate : c.create (pinNamespace (ResourceKey.ofDocument doc) doc.value) = _ :=
            create_written hdeployable hfind
          simp only [failing, hcreate]
          exact ⟨_, _, rfl, .created hdeployable hreached hfind⟩
      | some live =>
          cases hreplaces : replaces (ResourceKey.ofDocument doc).kind with
          | false =>
              simp only [failing, Bool.false_eq_true, if_false]
              exact ⟨_, _, rfl, .kept hdeployable hreached hfind hreplaces⟩
          | true =>
              have hupdate := update_written hdeployable (resourceVersion? live) hfind
              cases hrejected : c.conflicting.contains doc.kind.name with
              | true =>
                  rw [if_pos hrejected] at hupdate
                  simp only [failing, if_true, carryVersion_eq_written, hupdate]
                  exact ⟨_, _, rfl, .conflicting hdeployable hreached hfind hreplaces hrejected⟩
              | false =>
                  rw [if_neg (Bool.eq_false_iff.mp hrejected)] at hupdate
                  simp only [failing, if_true, carryVersion_eq_written, hupdate]
                  exact ⟨_, _, rfl, .updated hdeployable hreached hfind hreplaces hrejected⟩

end ClusterTuning.Deployment
