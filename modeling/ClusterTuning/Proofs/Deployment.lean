import ClusterTuning.Proofs.Deployment.Attempt

/-!
# ClusterTuning.Proofs.Deployment

**Deploying is an idempotent upsert.**

A deployment step touches one object, the one that it has looked up, so a whole deployment
acts on each object alone, as the sequence of the documents of that object (`run_healthy`).
Such a sequence depends on the live object only through its version, and writes at the end
what its last document says. A second run finds the version that the first one has left.

## Main statements

* `step_healthy`, `run_healthy`: what a step and a run do to a cluster that rejects nothing.
* `deployAll_twice`: a second deployment of the same input updates what is upserted, leaves all
  else unchanged, and stores what the first one stored.
-/

namespace ClusterTuning.Deployment

/-! ### One object -/

/-- What is stored for the object of a document after the document was deployed. -/
def upsert (live : Option Value) (doc : Document) : Option Value :=
  if live.isNone || replaces doc.kind then
    some (written doc (live.bind resourceVersion?))
  else live

/-- What the deployment of a document over a live object is reported as. -/
def action (live : Option Value) (doc : Document) : DeployAction :=
  if live.isNone then .created else if replaces doc.kind then .updated else .unchanged

theorem isSome_upsert (live : Option Value) (doc : Document) : (upsert live doc).isSome = true := by
  cases live with
  | none => rfl
  | some v =>
      unfold upsert
      split <;> rfl

/-- Objects that are not replaced stay as soon as they are there. -/
theorem foldl_upsert_of_not_replaces {docs : List Document}
    (h : ∀ doc ∈ docs, replaces doc.kind = false) (v : Value) :
    docs.foldl upsert (some v) = some v := by
  induction docs with
  | nil => rfl
  | cons doc rest ih =>
      have hdoc : upsert (some v) doc = some v := by
        simp [upsert, h doc List.mem_cons_self]
      rw [List.foldl_cons, hdoc]
      exact ih fun d hd => h d (List.mem_cons_of_mem _ hd)

theorem upsert_of_replaces {doc : Document} (h : replaces doc.kind = true) (live : Option Value) :
    upsert live doc = some (written doc (live.bind resourceVersion?)) := by
  simp [upsert, h]

/-- The version of an object after documents were deployed over it. -/
def versionAfter (docs : List Document) (version : Option String) : Option String :=
  docs.foldl (fun version doc => version.or (ownVersion doc)) version

theorem versionAfter_some (docs : List Document) (version : String) :
    versionAfter docs (some version) = some version := by
  induction docs with
  | nil => rfl
  | cons doc rest ih => exact ih

/-- A version that is none in the end was none from the start. -/
theorem versionAfter_none {docs : List Document} {version : Option String}
    (h : versionAfter docs version = none) : versionAfter docs none = none := by
  cases version with
  | none => exact h
  | some version => simp [versionAfter_some] at h

/-- The version of an object after documents that replace it depends on the documents and on the
version before them, and on nothing else that the object held. -/
theorem bind_foldl_upsert {docs : List Document} (hdocs : ∀ doc ∈ docs, Deployable doc)
    (hreplaces : ∀ doc ∈ docs, replaces doc.kind = true) (live : Option Value) :
    (docs.foldl upsert live).bind resourceVersion? =
      versionAfter docs (live.bind resourceVersion?) := by
  induction docs generalizing live with
  | nil => rfl
  | cons doc rest ih =>
      rw [List.foldl_cons, ih (fun d hd => hdocs d (List.mem_cons_of_mem _ hd))
        (fun d hd => hreplaces d (List.mem_cons_of_mem _ hd)),
        upsert_of_replaces (hreplaces doc List.mem_cons_self), Option.bind_some,
        resourceVersion?_written (hdocs doc List.mem_cons_self)]
      rfl

/-- Documents of one kind that are deployed again leave what they have left. -/
theorem foldl_upsert_again {docs : List Document} (hdocs : ∀ doc ∈ docs, Deployable doc)
    {kind : ResourceKind} (hkind : ∀ doc ∈ docs, doc.kind = kind) (live : Option Value) :
    docs.foldl upsert (docs.foldl upsert live) = docs.foldl upsert live := by
  rcases List.eq_nil_or_concat' docs with rfl | ⟨front, last, rfl⟩
  · rfl
  cases hreplaces : replaces kind with
  | false =>
      have hstays : ∀ doc ∈ front ++ [last], replaces doc.kind = false := by
        intro doc hdoc
        rw [hkind doc hdoc, hreplaces]
      obtain ⟨v, hv⟩ := Option.isSome_iff_exists.mp
        (isSome_upsert (front.foldl upsert live) last)
      have hfirst : (front ++ [last]).foldl upsert live = some v := by
        rw [List.foldl_concat, hv]
      rw [hfirst, foldl_upsert_of_not_replaces hstays]
  | true =>
      have hall : ∀ doc ∈ front ++ [last], replaces doc.kind = true := by
        intro doc hdoc
        rw [hkind doc hdoc, hreplaces]
      have hlast := hall last (List.mem_append_right _ List.mem_cons_self)
      have hdeployable := hdocs last (List.mem_append_right _ List.mem_cons_self)
      have hfront := fun start : Option Value => bind_foldl_upsert
        (fun doc hdoc => hdocs doc (List.mem_append_left _ hdoc))
        (fun doc hdoc => hall doc (List.mem_append_left _ hdoc)) start
      rw [List.foldl_concat, List.foldl_concat, upsert_of_replaces hlast, upsert_of_replaces hlast,
        hfront, hfront, Option.bind_some, resourceVersion?_written hdeployable]
      -- the version that the first run leaves is the one that the second run starts and ends with
      have hsettled : versionAfter front
            ((versionAfter front (live.bind resourceVersion?)).or (ownVersion last)) =
          (versionAfter front (live.bind resourceVersion?)).or (ownVersion last) := by
        cases hversion : (versionAfter front (live.bind resourceVersion?)).or (ownVersion last) with
        | some version => exact versionAfter_some front version
        | none => exact versionAfter_none (Option.or_eq_none_iff.mp hversion).1
      rw [hsettled, written_or_ownVersion hdeployable]

/-! ### One step -/

/-- The cluster answers every look-up and takes every update. -/
structure Healthy (c : Cluster) : Prop where
  /-- All kinds can be looked up. -/
  unreachable : c.unreachable = []
  /-- Updates of all kinds are taken. -/
  conflicting : c.conflicting = []

variable {c : Cluster} {doc : Document}

/-- Storing what a document makes of its object changes that object only. -/
theorem find?_store_upsert {object : Value}
    (h : upsert (c.find? (ResourceKey.ofDocument doc).object) doc = some object) (id : ObjectId) :
    (c.store (ResourceKey.ofDocument doc).object object).find? id =
      if (ResourceKey.ofDocument doc).object = id then upsert (c.find? id) doc
      else c.find? id := by
  rw [Cluster.find?_store]
  split
  · rename_i hid
    rw [← hid, h]
  · rfl

/-- Deploying a document upserts its object and touches no other. -/
theorem deployOne_healthy (hc : Healthy c) (hdoc : Deployable doc) :
    ∃ after : Cluster, deployOne c (ResourceKey.ofDocument doc) doc.value =
        (.ok (action (c.find? (ResourceKey.ofDocument doc).object) doc), after) ∧
      Healthy after ∧ ∀ id, after.find? id =
        if (ResourceKey.ofDocument doc).object = id then upsert (c.find? id) doc
        else c.find? id := by
  obtain ⟨outcome, after, hdeploy, hattempt⟩ := exists_attempt hdoc.isRead c
  -- a name and a healthy cluster leave three of the six endings
  cases hattempt with
  | unnamed hname => exact absurd hname hdoc.name_ne
  | unreachable _ hrefused => simp [hc.unreachable] at hrefused
  | conflicting _ _ _ _ hrefused => simp [hc.conflicting] at hrefused
  | created _ _ habsent =>
      have haction : action (c.find? (ResourceKey.ofDocument doc).object) doc = .created := by
        rw [habsent]
        rfl
      rw [haction]
      exact ⟨_, hdeploy, ⟨hc.unreachable, hc.conflicting⟩,
        find?_store_upsert (by rw [habsent]; rfl)⟩
  | kept _ _ hpresent hcreates =>
      have haction : action (c.find? (ResourceKey.ofDocument doc).object) doc = .unchanged := by
        simp [action, hpresent, hcreates]
      rw [haction]
      refine ⟨_, hdeploy, hc, fun id => ?_⟩
      split
      · rename_i hid
        simp [← hid, hpresent, upsert, hcreates]
      · rfl
  | @updated live _ _ hpresent hupserts _ =>
      have haction : action (c.find? (ResourceKey.ofDocument doc).object) doc = .updated := by
        simp [action, hpresent, hupserts]
      have hupsert : upsert (c.find? (ResourceKey.ofDocument doc).object) doc =
          some (written doc (resourceVersion? live)) := by
        rw [upsert_of_replaces hupserts, hpresent, Option.bind_some]
      rw [haction]
      exact ⟨_, hdeploy, ⟨hc.unreachable, hc.conflicting⟩,
        find?_store_upsert (c := c.countUpdate doc.kind.name) hupsert⟩

/-- In a healthy cluster a document with a name is always deployed: the report gets its outcome and
no error, and its object becomes what the document makes of it. -/
theorem step_healthy (hc : Healthy c) (hdoc : Deployable doc) (r : DeployReport) :
    ∃ after : Cluster, step (r, c) doc = ({ r with outcomes := r.outcomes ++
        [(ResourceKey.ofDocument doc, action (c.find? (ResourceKey.ofDocument doc).object) doc)] },
        after) ∧
      Healthy after ∧ ∀ id, after.find? id =
        if (ResourceKey.ofDocument doc).object = id then upsert (c.find? id) doc
        else c.find? id := by
  obtain ⟨after, hdeploy, hafter, hfind⟩ := deployOne_healthy hc hdoc
  refine ⟨after, ?_, hafter, hfind⟩
  simp only [step, hdeploy, DeployReport.record]

/-! ### Runs -/

/-- The documents of an object. -/
def documentsOf (id : ObjectId) (docs : List Document) : List Document :=
  docs.filter fun doc => (ResourceKey.ofDocument doc).object = id

theorem mem_documentsOf_iff {id : ObjectId} {docs : List Document} :
    doc ∈ documentsOf id docs ↔ doc ∈ docs ∧ (ResourceKey.ofDocument doc).object = id := by
  simp [documentsOf]

/-- A run reports no error, and acts on each object as the documents of that object do. -/
theorem run_healthy {docs : List Document} (hdocs : ∀ doc ∈ docs, Deployable doc) (hc : Healthy c)
    (r : DeployReport) :
    (docs.foldl step (r, c)).1.errors = r.errors ∧ Healthy (docs.foldl step (r, c)).2 ∧
      ∀ id, (docs.foldl step (r, c)).2.find? id =
        (documentsOf id docs).foldl upsert (c.find? id) := by
  induction docs generalizing r c with
  | nil => exact ⟨rfl, hc, fun _ => rfl⟩
  | cons doc rest ih =>
      obtain ⟨after, hstep, hafter, hfind⟩ := step_healthy hc (hdocs doc List.mem_cons_self) r
      rw [List.foldl_cons, hstep]
      obtain ⟨herrors, hhealthy, hrun⟩ :=
        ih (fun d hd => hdocs d (List.mem_cons_of_mem _ hd)) hafter _
      refine ⟨herrors, hhealthy, ?_⟩
      intro id
      rw [hrun, hfind]
      by_cases hid : (ResourceKey.ofDocument doc).object = id
      · rw [if_pos hid, documentsOf, documentsOf, List.filter_cons_of_pos (by simpa using hid)]
        rfl
      · rw [if_neg hid, documentsOf, documentsOf, List.filter_cons_of_neg (by simpa using hid)]

/-- Where all objects are there, those that are replaced are updated and the others stay. -/
theorem outcomes_run {docs : List Document} (hdocs : ∀ doc ∈ docs, Deployable doc)
    (hc : Healthy c)
    (hstored : ∀ doc ∈ docs, (c.find? (ResourceKey.ofDocument doc).object).isSome = true)
    (r : DeployReport) :
    (docs.foldl step (r, c)).1.outcomes = r.outcomes ++ docs.map fun doc =>
      (ResourceKey.ofDocument doc, if replaces doc.kind then .updated else .unchanged) := by
  induction docs generalizing r c with
  | nil => simp
  | cons doc rest ih =>
      obtain ⟨after, hstep, hafter, hfind⟩ := step_healthy hc (hdocs doc List.mem_cons_self) r
      obtain ⟨live, hlive⟩ := Option.isSome_iff_exists.mp (hstored doc List.mem_cons_self)
      have hkept : ∀ d ∈ rest, (after.find? (ResourceKey.ofDocument d).object).isSome = true := by
        intro d hd
        rw [hfind]
        split
        · exact isSome_upsert _ _
        · exact hstored d (List.mem_cons_of_mem _ hd)
      rw [List.foldl_cons, hstep,
        ih (fun d hd => hdocs d (List.mem_cons_of_mem _ hd)) hafter hkept, hlive]
      simp [action]

/-- After a run everything that was deployed is there. -/
theorem isSome_find?_run {docs : List Document} (hdocs : ∀ doc ∈ docs, Deployable doc)
    (hc : Healthy c) (r : DeployReport) (hdoc : doc ∈ docs) :
    ((docs.foldl step (r, c)).2.find? (ResourceKey.ofDocument doc).object).isSome = true := by
  rw [(run_healthy hdocs hc r).2.2]
  have hmem : doc ∈ documentsOf (ResourceKey.ofDocument doc).object docs :=
    mem_documentsOf_iff.mpr ⟨hdoc, rfl⟩
  rcases List.eq_nil_or_concat' (documentsOf (ResourceKey.ofDocument doc).object docs) with
    hnil | ⟨front, last, hconcat⟩
  · rw [hnil] at hmem
    cases hmem
  · rw [hconcat, List.foldl_concat]
    exact isSome_upsert _ _

/-- A second run stores what the first one stored. -/
theorem find?_run_again {docs : List Document} (hdocs : ∀ doc ∈ docs, Deployable doc)
    (hc : Healthy c) (r r' : DeployReport) (id : ObjectId) :
    (docs.foldl step (r', (docs.foldl step (r, c)).2)).2.find? id =
      (docs.foldl step (r, c)).2.find? id := by
  obtain ⟨-, hfirst, hfind⟩ := run_healthy hdocs hc r
  rw [(run_healthy hdocs hfirst r').2.2, hfind]
  have hdeployable : ∀ doc ∈ documentsOf id docs, Deployable doc := fun doc hdoc =>
    hdocs doc (mem_documentsOf_iff.mp hdoc).1
  cases hnone : documentsOf id docs with
  | nil => rfl
  | cons head rest =>
      rw [← hnone]
      have hhead : head ∈ documentsOf id docs := hnone ▸ List.mem_cons_self
      -- an object is known by its kind, so its documents are either all replaced or all kept
      have hkind : ∀ doc ∈ documentsOf id docs, doc.kind = head.kind := by
        intro doc hdoc
        refine (hdeployable doc hdoc).isRead.kind_eq_of_name_eq (hdeployable head hhead).isRead ?_
        have hsame := (mem_documentsOf_iff.mp hdoc).2.trans (mem_documentsOf_iff.mp hhead).2.symm
        exact congrArg ObjectId.kind hsame
      exact foldl_upsert_again hdeployable hkind _

theorem isClusterScoped_of_replaces {kind : ResourceKind} (h : replaces kind = true) :
    kind.isClusterScoped = false := by
  cases kind <;> first | rfl | cases h

/-- The last document of an object that is replaced decides what is stored. -/
theorem upserted_of_last {before after : List Document}
    (hdocs : ∀ d ∈ before ++ doc :: after, Deployable d) (hc : Healthy c)
    (hreplaces : replaces doc.kind = true)
    (hlast : ∀ later ∈ after,
      (ResourceKey.ofDocument later).object ≠ (ResourceKey.ofDocument doc).object)
    (r : DeployReport) :
    ∃ stored, ((before ++ doc :: after).foldl step (r, c)).2.find?
        (ResourceKey.ofDocument doc).object = some stored ∧
      Upserted doc ((before.foldl step (r, c)).2.find? (ResourceKey.ofDocument doc).object)
        stored := by
  have hbefore : ∀ d ∈ before, Deployable d := fun d hd => hdocs d (List.mem_append_left _ hd)
  have hdoc := hdocs doc (List.mem_append_right _ List.mem_cons_self)
  have hafter : documentsOf (ResourceKey.ofDocument doc).object after = [] := by
    refine List.filter_eq_nil_iff.mpr ?_
    intro later hlater
    simpa using hlast later hlater
  have hsplit : documentsOf (ResourceKey.ofDocument doc).object (before ++ doc :: after) =
      documentsOf (ResourceKey.ofDocument doc).object before ++ [doc] := by
    rw [documentsOf, List.filter_append, List.filter_cons_of_pos (by simp)]
    exact congrArg (fun rest => _ ++ doc :: rest) hafter
  rw [(run_healthy hdocs hc r).2.2, (run_healthy hbefore hc r).2.2, hsplit, List.foldl_concat,
    upsert_of_replaces hreplaces]
  exact ⟨_, rfl, written_upserted hdoc (isClusterScoped_of_replaces hreplaces) _⟩

/-! ### Deployments -/

/-- What is deployed are the documents of the supporting kinds and the one of the experiment. -/
theorem mem_plan_iff {set : ManifestSet} {e : Experiment} :
    doc ∈ plan set e ↔
      (doc ∈ set ∧ doc.kind ∈ supportingKinds) ∨ doc = Document.ofValue e.toValue := by
  rw [plan, List.mem_append, List.mem_singleton]
  refine or_congr_left ⟨fun h => ?_, fun ⟨hmem, hkind⟩ => ?_⟩
  · obtain ⟨kind, hkind, hdoc⟩ := List.mem_flatMap.mp h
    obtain ⟨hmem, hof⟩ := List.mem_filter.mp hdoc
    rw [decide_eq_true_eq] at hof
    exact ⟨hmem, hof ▸ hkind⟩
  · exact List.mem_flatMap.mpr ⟨doc.kind, hkind, List.mem_filter.mpr ⟨hmem, by simp⟩⟩

theorem isRead_ofValue_toValue (e : Experiment) : (Document.ofValue e.toValue).IsRead :=
  ⟨rfl, Value.isCanonical_canonical _, rfl⟩

theorem isRead_of_mem_plan {set : ManifestSet} (hset : ∀ doc ∈ set, doc.IsRead) (e : Experiment) :
    ∀ doc ∈ plan set e, doc.IsRead := by
  intro doc hdoc
  rcases mem_plan_iff.mp hdoc with ⟨hmem, -⟩ | rfl
  · exact hset doc hmem
  · exact isRead_ofValue_toValue e

/-- Every document of the plan can be deployed, also the one that is made of the experiment. -/
theorem deployable_of_mem_plan {sources : List (String × Bytes)} {set : ManifestSet}
    {e : Experiment} (hset : ManifestSet.extendAll [] sources = .ok set)
    (hnamed : ∀ doc ∈ set, doc.kind ∈ supportingKinds → doc.name ≠ "")
    (hname : (Document.ofValue e.toValue).name ≠ "") :
    ∀ doc ∈ plan set e, Deployable doc := by
  intro doc hdoc
  refine ⟨isRead_of_mem_plan (ManifestSet.isRead_of_extendAll hset) e doc hdoc, ?_⟩
  rcases mem_plan_iff.mp hdoc with ⟨hmem, hkind⟩ | rfl
  · exact hnamed doc hmem hkind
  · exact hname

/-- What a deployment reports of objects that are all there. -/
theorem map_plan_outcomes {set : ManifestSet} {e : Experiment}
    (hkind : (Document.ofValue e.toValue).kind = .experiment) :
    ((plan set e).map fun doc => (ResourceKey.ofDocument doc,
        if replaces doc.kind then DeployAction.updated else .unchanged)) =
      (supportingKinds.flatMap fun kind => set.ofKind kind).map (fun doc =>
        (ResourceKey.ofDocument doc, if doc.kind = .configMap then .updated else .unchanged)) ++
      [(ResourceKey.ofDocument (Document.ofValue e.toValue), .updated)] := by
  rw [plan, List.map_append, List.map_singleton, hkind]
  refine congrArg (· ++ _) (List.map_congr_left fun doc hdoc => ?_)
  obtain ⟨kind, hmem, hof⟩ := List.mem_flatMap.mp hdoc
  have hsame : doc.kind = kind := of_decide_eq_true (List.mem_filter.mp hof).2
  simp only [supportingKinds, List.mem_cons, List.not_mem_nil, or_false] at hmem
  rw [hsame]
  rcases hmem with rfl | rfl | rfl | rfl <;> rfl

/-- A deployment of parsed manifests and an experiment to a cluster that rejects nothing
reports no error, and neither does a second one. The second one updates the config maps and
the experiment, leaves the rest unchanged, and stores what the first one stored. After each of
them the object of a config map or of the experiment is its last document, in its namespace
and with the version of the live object that this document was deployed over.

Kind and name of the experiment are those of its document, as the deployment sees it. They are
its own for every experiment that was read (`Experiment.unshadowed_of_decode`). -/
theorem deployAll_twice {sources : List (String × Bytes)} {set : ManifestSet} {e : Experiment}
    {c : Cluster} (hset : ManifestSet.extendAll [] sources = .ok set)
    (hnamed : ∀ doc ∈ set,
      doc.kind ∈ [.serviceAccount, .clusterRole, .clusterRoleBinding, .configMap] → doc.name ≠ "")
    (hkind : (Document.ofValue e.toValue).kind = .experiment)
    (hname : (Document.ofValue e.toValue).name ≠ "")
    (hget : c.unreachable = []) (hupdate : c.conflicting = []) :
    let supporting := [.serviceAccount, .clusterRole, .clusterRoleBinding, .configMap].flatMap
      fun kind => set.filter fun doc => doc.kind = kind
    (deployAll c set e).1.errors = [] ∧
      (deployAll (deployAll c set e).2 set e).1.errors = [] ∧
      (deployAll (deployAll c set e).2 set e).1.outcomes =
        supporting.map (fun doc =>
          (ResourceKey.ofDocument doc, if doc.kind = .configMap then .updated else .unchanged)) ++
        [(ResourceKey.ofDocument (Document.ofValue e.toValue), .updated)] ∧
      (∀ id, (deployAll (deployAll c set e).2 set e).2.find? id =
        (deployAll c set e).2.find? id) ∧
      ∀ before doc after, supporting ++ [Document.ofValue e.toValue] = before ++ doc :: after →
        doc.kind = .configMap ∨ doc.kind = .experiment →
        (∀ later ∈ after,
          (ResourceKey.ofDocument later).object ≠ (ResourceKey.ofDocument doc).object) →
        ∀ start ∈ [c, (deployAll c set e).2], ∃ stored,
          (deployAll start set e).2.find? (ResourceKey.ofDocument doc).object = some stored ∧
          Upserted doc ((before.foldl step ({}, start)).2.find?
            (ResourceKey.ofDocument doc).object) stored := by
  intro supporting
  have hplan : plan set e = supporting ++ [Document.ofValue e.toValue] := rfl
  have hdocs := deployable_of_mem_plan hset hnamed hname
  have hc : Healthy c := ⟨hget, hupdate⟩
  obtain ⟨herrors, hfirst, -⟩ := run_healthy hdocs hc {}
  refine ⟨herrors, (run_healthy hdocs hfirst {}).1, ?_, find?_run_again hdocs hc {} {}, ?_⟩
  · refine Eq.trans ?_ (map_plan_outcomes hkind)
    exact outcomes_run hdocs hfirst (fun doc hdoc => isSome_find?_run hdocs hc {} hdoc) {}
  · intro before doc after hsplit hupserts hlast start hstart
    have hreplaces : replaces doc.kind = true := by
      rcases hupserts with h | h <;> rw [h] <;> rfl
    -- both runs start in a healthy cluster
    have hhealthy : Healthy start := by
      rcases List.mem_pair.mp hstart with rfl | rfl
      · exact hc
      · exact hfirst
    rw [hplan, hsplit] at hdocs
    rw [deployAll, hplan, hsplit]
    exact upserted_of_last hdocs hhealthy hreplaces hlast {}

/-! ### A config map, as an instance -/

/-- The source of a config map and of an account. -/
def mapSource : String × Bytes :=
  ("map.yaml", Text.encode ("kind: ServiceAccount\nmetadata:\n  name: a\n---\n" ++
    "data:\n  k: new\nkind: ConfigMap\nmetadata:\n  name: a\n"))

/-- The documents. -/
def mapSet : ManifestSet :=
  [⟨.serviceAccount, .object [("kind", .string "ServiceAccount"),
      ("metadata", .object [("name", .string "a")])]⟩,
    ⟨.configMap, .object [("data", .object [("k", .string "new")]), ("kind", .string "ConfigMap"),
      ("metadata", .object [("name", .string "a")])]⟩]

/-- An experiment of which only the name is known. -/
def mapExperiment : Experiment where
  apiVersion := "v1"
  kind := "Experiment"
  metadata := { name := "c" }

/-- The object of the config map. -/
def mapId : ObjectId := ⟨"ConfigMap", some "default", "a"⟩

/-- A cluster with an older config map, whose client works in a namespace of its own. -/
def mapCluster : Cluster where
  objects := [(mapId, .object [("data", .object [("k", .string "old"), ("l", .string "old")]),
    ("kind", .string "ConfigMap"), ("metadata", .object [("name", .string "a"),
      ("namespace", .string "default"), ("resourceVersion", .string "7")])])]
  clientNamespace := some "b"

/-- The config map is replaced, in the namespace where it was looked up and with the version that
it has, the first time as the second. -/
theorem deployAll_twice_map :
    let once := (deployAll mapCluster mapSet mapExperiment).2
    let twice := deployAll once mapSet mapExperiment
    let updated : Value := .object [("data", .object [("k", .string "new")]),
      ("kind", .string "ConfigMap"), ("metadata", .object [("name", .string "a"),
        ("namespace", .string "default"), ("resourceVersion", .string "7")])]
    once.find? mapId = some updated ∧ twice.2.find? mapId = some updated ∧
      (∀ id, twice.2.find? id = once.find? id) ∧ twice.1.errors = [] ∧
      twice.1.outcomes.map Prod.snd = [.unchanged, .updated, .updated] ∧
      ∃ stored, twice.2.find? mapId = some stored ∧
        Upserted ⟨.configMap, .object [("data", .object [("k", .string "new")]),
          ("kind", .string "ConfigMap"), ("metadata", .object [("name", .string "a")])]⟩
          (some updated) stored := by
  intro once twice updated
  have hset : ManifestSet.extendAll [] [mapSource] = .ok mapSet := by
    decide +kernel
  obtain ⟨-, herrors, houtcomes, hagain, hstored⟩ := deployAll_twice (c := mapCluster)
    (e := mapExperiment) hset (by decide +kernel) (by decide +kernel) (by decide +kernel) rfl rfl
  have honce : once.find? mapId = some updated := by
    decide +kernel
  refine ⟨honce, (hagain mapId).trans honce, hagain, herrors, ?_, ?_⟩
  · rw [houtcomes]
    decide +kernel
  · -- before the config map only the account is deployed, which stays
    have hlive : (([mapSet[0]].foldl step ({}, once)).2).find? mapId = some updated := by
      decide +kernel
    have hlast := hstored [mapSet[0]] mapSet[1] [Document.ofValue mapExperiment.toValue] rfl
      (Or.inl rfl) (by decide +kernel) once (by simp [once])
    have hid : (ResourceKey.ofDocument mapSet[1]).object = mapId := by
      decide +kernel
    rw [hid, hlive] at hlast
    exact hlast

end ClusterTuning.Deployment
