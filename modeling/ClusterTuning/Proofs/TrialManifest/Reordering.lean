import ClusterTuning.Proofs.TrialManifest

/-!
# ClusterTuning.Proofs.TrialManifest.Reordering

**Inputs of different names may be given in any order.**

The order of the inputs shows in two places. Their documents are gathered in it, and where no
application names the resources, it is the order of the resources. The single documents of a kind
do not depend on the first, and the resources are put in order before they are read. So once two
orders of the same inputs are gathered, they differ in nothing that is looked at
(`Gathered.Reordered`), and what follows is the same run: the same calls, and the same end.

Only what is said of inputs that cannot be gathered may differ, as the first failure is the one that
is reported. Nothing has been called then.

## Main statements

* `gather_of_perm`: what the inputs hold in another order.
* `trialManifest_reordered`: the manifest, the failures and the calls in another order.
-/

namespace ClusterTuning

namespace TrialManifest

/-! ### Inputs that are gathered -/

/-- The same inputs, with their names in another order. -/
structure Gathered.Reordered (g g' : Gathered) : Prop where
  files : g'.files = g.files
  names : g.names.Perm g'.names
  application : g'.application? = g.application?
  experiment : g'.experiment? = g.experiment?

variable {reader : FileReader} {stdin : Bytes} {paths others : List String} {g g' : Gathered}

/-- In another order, paths of different names give the same files, the same application and the
same experiment. Only the names are listed in another order. -/
theorem gather_of_perm (hperm : paths.Perm others) (hdistinct : (paths.map Input.nameOf).Nodup)
    (h : gather reader stdin paths = .ok g) :
    ∃ g', gather reader stdin others = .ok g' ∧ g.Reordered g' := by
  obtain ⟨hinputs, set, hset, happlication, hexperiment⟩ := gather_eq_ok_iff.mp h
  obtain ⟨names, hinputs', hnames⟩ := readInputs_of_perm hperm hdistinct hinputs
  obtain ⟨hreadable, rfl⟩ := ManifestSet.aggregate_eq_ok_iff.mp hset
  -- the same files are read, so their documents are there in another order
  have hset' : ManifestSet.aggregate g.files names =
      .ok (names.flatMap (ManifestSet.documentsIn g.files)) :=
    ManifestSet.aggregate_eq_ok_iff.mpr
      ⟨fun name hname => hreadable name (hnames.mem_iff.mpr hname), rfl⟩
  have hdocuments := hnames.flatMap_right (ManifestSet.documentsIn g.files)
  refine ⟨⟨g.files, names, g.application?, g.experiment?⟩, gather_eq_ok_iff.mpr ⟨hinputs', _, hset',
    ?_, ?_⟩, rfl, hnames, rfl, rfl⟩
  · rw [ManifestSet.extractSingle_of_perm hdocuments, happlication]
  · rw [ManifestSet.extractSingle_of_perm hdocuments, hexperiment]

/-! ### What is done with them -/

theorem finish_of_resources {files : FileSet} {names others : List String}
    {experiment? : Option Experiment} (h : names.Perm others) (experiment : Experiment)
    (item : TrialItem) : finish ⟨files, others, experiment?⟩ experiment item =
      finish ⟨files, names, experiment?⟩ experiment item := by
  have hnames : distinctNames others = distinctNames names :=
    distinctNames_congr fun _ => h.mem_iff.symm
  simp only [finish, compose, overlay, hnames]

variable {σ : Type}

/-- Make the manifest of what was gathered. -/
def ofGathered (service : TrialService σ) (number : Nat) (g : Gathered) (s : σ) :
    Except Failure String × σ :=
  match workload service g s with
  | (.error e, s) => (.error e, s)
  | (.ok w, s) => complete service number w s

theorem ofGathered_of_reordered (service : TrialService σ) (number : Nat) (h : g.Reordered g')
    (s : σ) : ofGathered service number g' s = ofGathered service number g s := by
  obtain ⟨files, names', application?, experiment?⟩ := g'
  obtain ⟨rfl, hnames, rfl, rfl⟩ := h
  cases happ : g.application? with
  | none => simp only [ofGathered, workload, happ, complete, finish_of_resources hnames]
  | some app => simp only [ofGathered, workload, happ, withAssets]

theorem trialManifest_of_gather {service : TrialService σ} {selector : TrialSelector} {number : Nat}
    (hnumber : selector.number = .ok number) (hg : gather reader stdin paths = .ok g) (s : σ) :
    trialManifest service selector reader stdin paths s = ofGathered service number g s := by
  simp only [trialManifest, hnumber, hg, ofGathered]
  cases workload service g s with
  | mk made after => cases made <;> rfl

end TrialManifest

open TrialManifest in
/-- Inputs of different names give the same manifest in any order, with the same calls. Failures are
the same as well, except for those of inputs that cannot be gathered: then nothing is called in
either order. -/
theorem trialManifest_reordered {σ : Type} (service : TrialService σ) (selector : TrialSelector)
    (reader : FileReader) (stdin : Bytes) {paths others : List String} (hperm : paths.Perm others)
    (hdistinct : (paths.map Input.nameOf).Nodup) (s : σ) :
    (∀ text s', trialManifest service selector reader stdin paths s = (.ok text, s') ↔
      trialManifest service selector reader stdin others s = (.ok text, s')) ∧
      (trialManifest service selector reader stdin others s =
          trialManifest service selector reader stdin paths s ∨
        ∃ e e', trialManifest service selector reader stdin paths s = (.error e, s) ∧
          trialManifest service selector reader stdin others s = (.error e', s)) := by
  have hends : trialManifest service selector reader stdin others s =
        trialManifest service selector reader stdin paths s ∨
      ∃ e e', trialManifest service selector reader stdin paths s = (.error e, s) ∧
        trialManifest service selector reader stdin others s = (.error e', s) := by
    cases hnumber : selector.number with
    | error e =>
        left
        simp only [trialManifest, hnumber]
    | ok number =>
        cases hgather : gather reader stdin paths with
        | ok g =>
            left
            obtain ⟨g', hgather', hreordered⟩ := gather_of_perm hperm hdistinct hgather
            rw [trialManifest_of_gather hnumber hgather, trialManifest_of_gather hnumber hgather',
              ofGathered_of_reordered service number hreordered]
        | error e =>
            cases hgather' : gather reader stdin others with
            | error e' =>
                right
                refine ⟨e, e', ?_, ?_⟩
                · simp only [trialManifest, hnumber, hgather]
                · simp only [trialManifest, hnumber, hgather']
            | ok g' =>
                -- put back into the first order, these inputs could be gathered as well
                have hdistinct' := (hperm.map Input.nameOf).nodup_iff.mp hdistinct
                obtain ⟨g, hg, -⟩ := gather_of_perm hperm.symm hdistinct' hgather'
                rw [hgather] at hg
                cases hg
  refine ⟨fun text s' => ?_, hends⟩
  rcases hends with hsame | ⟨e, e', hfailed, hfailed'⟩
  · rw [hsame]
  · rw [hfailed, hfailed']
    constructor
    · intro h
      cases h
    · intro h
      cases h

/-- The application and its resource may be given the other way round. -/
theorem trialManifest_reordered_shop :
    shopManifest "settings.yaml" = (.ok (ManifestSet.toYaml [shopExperiment, shopSettings]), ()) ∧
      trialManifest shopService (.byNumber 1) (shopReader "settings.yaml") []
        ["settings.yaml", "app.yaml"] () =
          (.ok (ManifestSet.toYaml [shopExperiment, shopSettings]), ()) := by
  have hrun : shopManifest "settings.yaml" =
      (.ok (ManifestSet.toYaml [shopExperiment, shopSettings]), ()) := by
    decide +kernel
  have hdistinct : (["app.yaml", "settings.yaml"].map Input.nameOf).Nodup := by
    decide +kernel
  exact ⟨hrun, ((trialManifest_reordered shopService (.byNumber 1) (shopReader "settings.yaml") []
    (List.Perm.swap _ _ _) hdistinct ()).1 _ _).mp hrun⟩

end ClusterTuning
