import ClusterTuning.Proofs.Deployment

/-!
# ClusterTuning.Proofs.Deployment.Frame

**What a deployment leaves alone, whatever the cluster rejects.**

A `Frame` says what the documents of a run may not have changed. It holds for every ending of an
attempt, and the frames of consecutive documents compose, so that it holds for every run, however
many of its attempts fail. Updates are counted along the same way.

## Main statements

* `frame_run`: what a run keeps of a cluster.
* `updateCount_run`: a run counts the updates that it reports.
* `find?_deployAll_experiment`: the experiment is stored whatever becomes of the other documents.
* `deployAll_frame`: a deployment writes to no object but those of its named documents, takes none
  away, keeps what is only ever created, and counts the updates that it reports.
-/

namespace ClusterTuning.Deployment

variable {c : Cluster} {doc : Document}

/-! ### Frames -/

/-- What documents leave of a cluster in which they are deployed. -/
structure Frame (docs : List Document) (before after : Cluster) : Prop where
  /-- What was stored is stored still, though perhaps in another form. -/
  present : ∀ {id v}, before.find? id = some v → ∃ kept, after.find? id = some kept
  /-- What is only ever created stays as it was stored. -/
  creates : ∀ {id v}, replaces (ResourceKind.ofName id.kind) = false →
    before.find? id = some v → after.find? id = some v
  /-- What no document with a name is about is as it was, stored or not. -/
  untouched : ∀ {id}, (∀ doc ∈ docs, doc.name ≠ "" → (ResourceKey.ofDocument doc).object ≠ id) →
    after.find? id = before.find? id
  /-- The same kinds can be looked up. -/
  unreachable : after.unreachable = before.unreachable
  /-- The same updates are taken. -/
  conflicting : after.conflicting = before.conflicting

theorem Frame.refl (docs : List Document) (c : Cluster) : Frame docs c c :=
  ⟨fun h => ⟨_, h⟩, fun _ h => h, fun _ => rfl, rfl, rfl⟩

/-- What two groups of documents leave in turn is what both leave together. -/
theorem Frame.trans {front back : List Document} {before between after : Cluster}
    (h : Frame front before between) (h' : Frame back between after) :
    Frame (front ++ back) before after where
  present hv := by
    obtain ⟨kept, hkept⟩ := h.present hv
    exact h'.present hkept
  creates hkind hv := h'.creates hkind (h.creates hkind hv)
  untouched hid := by
    have hfront := h.untouched fun doc hdoc => hid doc (List.mem_append_left _ hdoc)
    have hback := h'.untouched fun doc hdoc => hid doc (List.mem_append_right _ hdoc)
    exact hback.trans hfront
  unreachable := h'.unreachable.trans h.unreachable
  conflicting := h'.conflicting.trans h.conflicting

theorem Frame.healthy {docs : List Document} {before after : Cluster} (h : Frame docs before after)
    (hbefore : Healthy before) : Healthy after :=
  ⟨h.unreachable.trans hbefore.unreachable, h.conflicting.trans hbefore.conflicting⟩

theorem frame_countUpdate (kind : String) (c : Cluster) : Frame [] c (c.countUpdate kind) :=
  ⟨fun h => ⟨_, h⟩, fun _ h => h, fun _ => rfl, rfl, rfl⟩

theorem ofName_name_kind (hdoc : doc.IsRead) : ResourceKind.ofName doc.kind.name = doc.kind := by
  conv_rhs => rw [hdoc.kind_eq, Document.ofValue, hdoc.textAt_kind]

/-- Writing the object of a document touches no other, and nothing that is only ever created when
the document is of another kind or its object was not there. -/
theorem frame_store (hdoc : Deployable doc)
    (hfree : replaces doc.kind = true ∨ c.find? (ResourceKey.ofDocument doc).object = none)
    (object : Value) : Frame [doc] c (c.store (ResourceKey.ofDocument doc).object object) where
  present {id v} hv := by
    rw [Cluster.find?_store]
    split
    · exact ⟨object, rfl⟩
    · exact ⟨v, hv⟩
  creates {id v} hkind hv := by
    have hother : (ResourceKey.ofDocument doc).object ≠ id := by
      rintro rfl
      rcases hfree with hreplaces | habsent
      · have hsame : replaces doc.kind = false := ofName_name_kind hdoc.isRead ▸ hkind
        rw [hreplaces] at hsame
        cases hsame
      · rw [habsent] at hv
        cases hv
    rw [Cluster.find?_store, if_neg hother, hv]
  untouched hid := by
    rw [Cluster.find?_store, if_neg (hid doc List.mem_cons_self hdoc.name_ne)]
  unreachable := rfl
  conflicting := rfl

/-! ### Attempts and runs -/

/-- An attempt leaves all that its document does not name, however it ends. -/
theorem frame_attempt {outcome : Except Failure DeployAction} {after : Cluster}
    (h : Attempt c doc outcome after) : Frame [doc] c after := by
  cases h with
  | unnamed _ => exact .refl _ _
  | unreachable _ _ => exact .refl _ _
  | kept _ _ _ _ => exact .refl _ _
  | conflicting _ _ _ _ _ => exact .refl _ _
  | created deployable _ absent => exact frame_store deployable (Or.inr absent) _
  | updated deployable _ _ upserts _ =>
      exact (frame_countUpdate _ c).trans (frame_store deployable (Or.inl upserts) _)

/-- A step records how the attempt ended. -/
theorem step_of_deployOne {state : DeployReport × Cluster}
    {outcome : Except Failure DeployAction} {after : Cluster}
    (h : deployOne state.2 (ResourceKey.ofDocument doc) doc.value = (outcome, after)) :
    step state doc = (state.1.record (ResourceKey.ofDocument doc) outcome, after) := by
  rw [step, h]

theorem frame_step (hdoc : doc.IsRead) (state : DeployReport × Cluster) :
    Frame [doc] state.2 (step state doc).2 := by
  obtain ⟨outcome, after, hdeploy, hattempt⟩ := exists_attempt hdoc state.2
  rw [step_of_deployOne hdeploy]
  exact frame_attempt hattempt

theorem frame_run {docs : List Document} (hdocs : ∀ doc ∈ docs, doc.IsRead)
    (state : DeployReport × Cluster) : Frame docs state.2 (docs.foldl step state).2 := by
  induction docs generalizing state with
  | nil => exact .refl _ _
  | cons doc rest ih =>
      have hstep := frame_step (hdocs doc List.mem_cons_self) state
      exact hstep.trans (ih (fun d hd => hdocs d (List.mem_cons_of_mem _ hd)) (step state doc))

/-- An attempt that fails changes nothing. -/
theorem step_of_error (hdoc : doc.IsRead) {state : DeployReport × Cluster} {failure : Failure}
    (h : (deployOne state.2 (ResourceKey.ofDocument doc) doc.value).1 = .error failure) :
    (step state doc).2 = state.2 := by
  obtain ⟨outcome, after, hdeploy, hattempt⟩ := exists_attempt hdoc state.2
  rw [step_of_deployOne hdeploy]
  rw [hdeploy] at h
  cases h
  cases hattempt <;> rfl

/-! ### Counting updates -/

/-- How many updates of a kind a report tells of. -/
def updatesOf (kind : String) (r : DeployReport) : Nat :=
  r.outcomes.countP fun outcome => outcome.1.kind.name = kind ∧ outcome.2 = .updated

theorem updatesOf_record_ok (kind : String) (r : DeployReport) (key : ResourceKey)
    (action : DeployAction) : updatesOf kind (r.record key (.ok action)) =
      updatesOf kind r + if key.kind.name = kind ∧ action = .updated then 1 else 0 := by
  simp [updatesOf, DeployReport.record, List.countP_append, List.countP_singleton]

/-- A step counts an update exactly when it reports one. -/
theorem updateCount_step (hdoc : doc.IsRead) (kind : String) (state : DeployReport × Cluster) :
    (step state doc).2.updateCount kind + updatesOf kind state.1 =
      state.2.updateCount kind + updatesOf kind (step state doc).1 := by
  obtain ⟨outcome, after, hdeploy, hattempt⟩ := exists_attempt hdoc state.2
  rw [step_of_deployOne hdeploy]
  cases hattempt with
  | unnamed _ => rfl
  | unreachable _ _ => rfl
  | conflicting _ _ _ _ _ => rfl
  | created _ _ _ => simp [updatesOf_record_ok, Cluster.updateCount, Cluster.store]
  | kept _ _ _ _ => simp [updatesOf_record_ok]
  | updated _ _ _ _ _ =>
      have hcount := Cluster.updateCount_countUpdate doc.kind.name kind state.2
      have hkey : (ResourceKey.ofDocument doc).kind.name = doc.kind.name := rfl
      simp only [updatesOf_record_ok, hkey, and_true]
      exact (congrArg (· + updatesOf kind state.1) hcount).trans (by omega)

/-- The cluster counts one more update of a kind for each one that the report tells of. -/
theorem updateCount_run {docs : List Document} (hdocs : ∀ doc ∈ docs, doc.IsRead) (kind : String)
    (state : DeployReport × Cluster) :
    (docs.foldl step state).2.updateCount kind + updatesOf kind state.1 =
      state.2.updateCount kind + updatesOf kind (docs.foldl step state).1 := by
  induction docs generalizing state with
  | nil => rfl
  | cons doc rest ih =>
      have hstep := updateCount_step (hdocs doc List.mem_cons_self) kind state
      have hrest := ih (fun d hd => hdocs d (List.mem_cons_of_mem _ hd)) (step state doc)
      rw [List.foldl_cons]
      omega

/-! ### Deployments -/

/-- The kinds whose objects are only ever created. -/
def createdKinds : List ResourceKind :=
  [.serviceAccount, .clusterRole, .clusterRoleBinding]

theorem replaces_ofName_of_mem {kind : ResourceKind} (h : kind ∈ createdKinds) :
    replaces (ResourceKind.ofName kind.name) = false := by
  simp only [createdKinds, List.mem_cons, List.not_mem_nil, or_false] at h
  rcases h with rfl | rfl | rfl <;> decide

/-- A cluster that rejects nothing stores the experiment, whatever becomes of the supporting
documents. -/
theorem find?_deployAll_experiment {set : ManifestSet} (hset : ∀ doc ∈ set, doc.IsRead)
    {e : Experiment} (hkind : (Document.ofValue e.toValue).kind = .experiment)
    (hname : (Document.ofValue e.toValue).name ≠ "") {id : ObjectId}
    (hid : (ResourceKey.ofDocument (Document.ofValue e.toValue)).object = id) {c : Cluster}
    (hc : Healthy c) : (deployAll c set e).2.find? id =
      some (written (Document.ofValue e.toValue) ((c.find? id).bind resourceVersion?)) := by
  have hdoc : Deployable (Document.ofValue e.toValue) := ⟨isRead_ofValue_toValue e, hname⟩
  have hread : ∀ d ∈ supportingKinds.flatMap (fun kind => set.ofKind kind), d.IsRead :=
    fun d hd => isRead_of_mem_plan hset e d (List.mem_append_left _ hd)
  have hframe := frame_run hread ({}, c)
  have hother : ∀ d ∈ supportingKinds.flatMap (fun kind => set.ofKind kind), d.name ≠ "" →
      (ResourceKey.ofDocument d).object ≠ id := by
    intro d hd _ hsame
    obtain ⟨kind, hsupporting, hof⟩ := List.mem_flatMap.mp hd
    have hdkind : d.kind = kind := of_decide_eq_true (List.mem_filter.mp hof).2
    have hnames : kind.name = ResourceKind.experiment.name := by
      rw [← hdkind, ← hkind]
      exact congrArg ObjectId.kind (hsame.trans hid.symm)
    simp only [supportingKinds, List.mem_cons, List.not_mem_nil, or_false] at hsupporting
    rcases hsupporting with rfl | rfl | rfl | rfl <;> exact absurd hnames (by decide)
  obtain ⟨after, hstep, -, hfind⟩ := step_healthy (hframe.healthy hc) hdoc
    ((supportingKinds.flatMap fun kind => set.ofKind kind).foldl step ({}, c)).1
  have hreplaces : replaces (Document.ofValue e.toValue).kind = true := by
    rw [hkind]
    rfl
  rw [deployAll, plan, List.foldl_concat, hstep, hfind, if_pos hid, hframe.untouched hother,
    upsert_of_replaces hreplaces]

theorem healthy_deployAll {set : ManifestSet} (hset : ∀ doc ∈ set, doc.IsRead) (e : Experiment)
    {c : Cluster} (hc : Healthy c) : Healthy (deployAll c set e).2 :=
  (frame_run (isRead_of_mem_plan hset e) ({}, c)).healthy hc

/-- Whatever the cluster rejects, a deployment of parsed manifests and an experiment takes no
object away, and it leaves every account, role and binding that was there as it was. It writes to
no object but those of the named supporting documents and of the experiment, so no object of
another kind is written on behalf of the manifests. An attempt that ends in an error leaves the
cluster as it found it, and the updates that are counted for a kind are those that are reported.

This holds of every experiment, whatever kind its document has. -/
theorem deployAll_frame {sources : List (String × Bytes)} {set : ManifestSet}
    (hset : ManifestSet.extendAll [] sources = .ok set) (e : Experiment) (c : Cluster) :
    (∀ id v, c.find? id = some v → ∃ kept, (deployAll c set e).2.find? id = some kept) ∧
      (∀ id v, id.kind ∈ createdKinds.map ResourceKind.name → c.find? id = some v →
        (deployAll c set e).2.find? id = some v) ∧
      (∀ id, id ≠ (ResourceKey.ofDocument (Document.ofValue e.toValue)).object →
        (∀ doc ∈ set, doc.kind ∈ supportingKinds → doc.name ≠ "" →
          (ResourceKey.ofDocument doc).object ≠ id) →
        (deployAll c set e).2.find? id = c.find? id) ∧
      (∀ id, id ≠ (ResourceKey.ofDocument (Document.ofValue e.toValue)).object →
        id.kind ∉ supportingKinds.map ResourceKind.name →
        (deployAll c set e).2.find? id = c.find? id) ∧
      (∀ before doc after failure, plan set e = before ++ doc :: after →
        (deployOne (before.foldl step ({}, c)).2 (ResourceKey.ofDocument doc) doc.value).1 =
          .error failure →
        ((before ++ [doc]).foldl step ({}, c)).2 = (before.foldl step ({}, c)).2) ∧
      ∀ kind, (deployAll c set e).2.updateCount kind = c.updateCount kind +
        (deployAll c set e).1.outcomes.countP fun outcome =>
          outcome.1.kind.name = kind ∧ outcome.2 = .updated := by
  have hread := isRead_of_mem_plan (ManifestSet.isRead_of_extendAll hset) e
  have hframe : Frame (plan set e) c (deployAll c set e).2 := frame_run hread ({}, c)
  -- an object of another kind is one that no document names, so this serves for both
  have huntouched : ∀ id, id ≠ (ResourceKey.ofDocument (Document.ofValue e.toValue)).object →
      (∀ doc ∈ set, doc.kind ∈ supportingKinds → doc.name ≠ "" →
        (ResourceKey.ofDocument doc).object ≠ id) →
      (deployAll c set e).2.find? id = c.find? id := by
    intro id hexperiment hset
    refine hframe.untouched fun doc hdoc hname => ?_
    rcases mem_plan_iff.mp hdoc with ⟨hmem, hkind⟩ | rfl
    · exact hset doc hmem hkind hname
    · exact hexperiment.symm
  refine ⟨fun _ _ => hframe.present, ?_, huntouched, ?_, ?_, ?_⟩
  · intro id v hid hv
    obtain ⟨kind, hkind, hname⟩ := List.mem_map.mp hid
    exact hframe.creates (hname ▸ replaces_ofName_of_mem hkind) hv
  · intro id hexperiment hid
    refine huntouched id hexperiment fun doc _ hkind _ hobject => hid ?_
    exact hobject ▸ List.mem_map_of_mem hkind
  · intro before doc after failure hsplit herror
    rw [List.foldl_concat]
    refine step_of_error (hread doc ?_) herror
    rw [hsplit]
    exact List.mem_append_right _ List.mem_cons_self
  · intro kind
    exact updateCount_run hread kind ({}, c)

/-- An account that is there stays as it is, although the cluster takes no update of the config map
that is deployed with it. -/
theorem deployAll_frame_account : ∃ set : ManifestSet,
    ManifestSet.extendAll [] [("assets.yaml", Text.encode
      "kind: ServiceAccount\nmetadata:\n  name: a\n---\nkind: ConfigMap\nmetadata:\n  name: b\n")] =
        .ok set ∧
    (deployAll
        { objects := [(⟨"ServiceAccount", some "default", "a"⟩, .string "old")]
          conflicting := ["ConfigMap"] } set
        { apiVersion := "v1", kind := "Experiment", metadata := { name := "c" } }).2.find?
      ⟨"ServiceAccount", some "default", "a"⟩ = some (.string "old") := by
  have hset : ManifestSet.extendAll [] [("assets.yaml", Text.encode
      "kind: ServiceAccount\nmetadata:\n  name: a\n---\nkind: ConfigMap\nmetadata:\n  name: b\n")] =
        .ok [⟨.serviceAccount, .object [("kind", .string "ServiceAccount"),
            ("metadata", .object [("name", .string "a")])]⟩,
          ⟨.configMap, .object [("kind", .string "ConfigMap"),
            ("metadata", .object [("name", .string "b")])]⟩] := by
    decide +kernel
  exact ⟨_, hset, (deployAll_frame hset _ _).2.1 _ _ (by decide) rfl⟩

end ClusterTuning.Deployment
