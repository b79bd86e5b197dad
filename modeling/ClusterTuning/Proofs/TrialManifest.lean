import ClusterTuning.Proofs.Input
import ClusterTuning.Proofs.Manifest.Named
import ClusterTuning.TrialManifest
import Mathlib.Data.List.Nodup

/-!
# ClusterTuning.Proofs.TrialManifest

**What the manifest of a trial is made of.**

With an application, the manifest is made of the inputs that the application names and of all that
the generator made. The generated documents go through the files of the inputs: each is written
under a numbered name, and what has been there under that name is gone. The numbered names differ
from each other, so no generated document is lost. An input that the application names is lost
exactly if it bears one of them.

## Main statements

* `assetName_injective`, `flatMap_documentsIn_assetFiles`: generated documents are read back from
  their files, each once.
* `distinctNames_perm`: the names that are composed are the kept inputs and the numbered names.
* `trialManifest_documents`: the documents of a manifest, and when they are all there.
-/

namespace ClusterTuning

/-! ### Documents that are written and read again -/

theorem Document.IsRead.ofValue_value {doc : Document} (h : doc.IsRead) :
    Document.ofValue doc.value = doc := by
  obtain ⟨kind, v⟩ := doc
  have hkind : kind = (Document.ofValue v).kind := h.kind_eq
  rw [hkind]
  rfl

/-- Written by itself, the document is read as one document with its content. -/
def Document.Rereads (doc : Document) : Prop :=
  (Text.decode? (Text.encode (Yaml.write doc.value))).map Yaml.readAll = some [some doc.value]

theorem ManifestSet.ofBytes_write {doc : Document} (hdoc : doc.IsRead) (h : doc.Rereads)
    (source : String) : ofBytes source (Text.encode (Yaml.write doc.value)) = .ok [doc] := by
  obtain ⟨text, htext, hread⟩ := Option.map_eq_some_iff.mp h
  obtain ⟨fields, hfields⟩ := hdoc.exists_fields
  have hsame : Document.ofValue (.object fields) = doc := hfields ▸ hdoc.ofValue_value
  rw [ofBytes, htext]
  simp only [hread, hfields, collect, hsame]

/-! ### Files that are written one after the other -/

namespace FileSet

/-- Store files in turn. -/
def writeAll (entries : List (String × Bytes)) (set : FileSet) : FileSet :=
  entries.foldl (fun files file => files.write file.1 file.2) set

theorem read?_writeAll_of_not_mem {entries : List (String × Bytes)} {name : String}
    (h : name ∉ entries.map Prod.fst) (set : FileSet) :
    (set.writeAll entries).read? name = set.read? name := by
  induction entries generalizing set with
  | nil => rfl
  | cons entry rest ih =>
      rw [List.map_cons, List.mem_cons, not_or] at h
      have hstep : set.writeAll (entry :: rest) = (set.write entry.1 entry.2).writeAll rest := rfl
      rw [hstep, ih h.2, read?_write, if_neg (Ne.symm h.1)]

/-- Each of the written files is found with its content, if they have different names. -/
theorem read?_writeAll_of_mem {entries : List (String × Bytes)}
    (hnodup : (entries.map Prod.fst).Nodup) {entry : String × Bytes} (h : entry ∈ entries)
    (set : FileSet) : (set.writeAll entries).read? entry.1 = some entry.2 := by
  induction entries generalizing set with
  | nil => cases h
  | cons first rest ih =>
      rw [List.map_cons, List.nodup_cons] at hnodup
      have hstep : set.writeAll (first :: rest) = (set.write first.1 first.2).writeAll rest := rfl
      rw [hstep]
      rcases List.mem_cons.mp h with rfl | hrest
      · rw [read?_writeAll_of_not_mem hnodup.1, read?_write, if_pos rfl]
      · exact ih hnodup.2 hrest _

end FileSet

namespace TrialManifest

/-! ### The files of generated documents -/

/-- Generated documents have different file names. -/
theorem assetName_injective : Function.Injective assetName := by
  intro i j h
  have hname : "application-assets" ++ String.ofList (Decimal.natDigits i) ++ ".yaml" =
      "application-assets" ++ String.ofList (Decimal.natDigits j) ++ ".yaml" := h
  have htext : String.ofList (Decimal.natDigits i) = String.ofList (Decimal.natDigits j) :=
    (String.append_right_inj _).mp ((String.append_left_inj _).mp hname)
  have hvalue := congrArg (fun digits => Nat.ofDigitChars 10 digits 0) (String.ofList_injective htext)
  simpa only [Decimal.natDigits, Nat.ofDigitChars_ten_toDigits] using hvalue

/-- The names of the files for generated documents. -/
def assetNames (assets : ManifestSet) : List String :=
  (assetFiles 0 assets).map Prod.fst

theorem map_fst_assetFiles (index : Nat) (assets : ManifestSet) :
    (assetFiles index assets).map Prod.fst = (List.range' index assets.length).map assetName := by
  induction assets generalizing index with
  | nil => rfl
  | cons doc rest ih =>
      rw [assetFiles, List.map_cons, ih, List.length_cons, List.range'_succ, List.map_cons]

theorem nodup_assetNames (assets : ManifestSet) : (assetNames assets).Nodup := by
  rw [assetNames, map_fst_assetFiles]
  exact (List.nodup_map_iff assetName_injective).mpr (List.nodup_range' 1)

/-- Written to files of their own and read from them, the generated documents are the same in the
same order. -/
theorem flatMap_documentsIn_assetFiles {files : FileSet} {assets : ManifestSet} {index : Nat}
    (hassets : ∀ doc ∈ assets, doc.IsRead ∧ doc.Rereads)
    (hfiles : ∀ entry ∈ assetFiles index assets, files.read? entry.1 = some entry.2) :
    ((assetFiles index assets).map Prod.fst).flatMap (ManifestSet.documentsIn files) = assets := by
  induction assets generalizing index with
  | nil => rfl
  | cons doc rest ih =>
      obtain ⟨hread, hrereads⟩ := hassets doc List.mem_cons_self
      -- the file of the first document holds this document and no other
      have hdoc : ManifestSet.documentsIn files (assetName index) = [doc] :=
        ManifestSet.documentsIn_of_ofBytes (hfiles _ List.mem_cons_self)
          (ManifestSet.ofBytes_write hread hrereads _)
      have hrest := ih (fun doc hdoc => hassets doc (List.mem_cons_of_mem _ hdoc))
        (fun entry hentry => hfiles entry (List.mem_cons_of_mem _ hentry))
      rw [assetFiles, List.map_cons, List.flatMap_cons, hdoc, hrest, List.singleton_append]

/-! ### The names that are composed -/

/-- The names of the inputs that the application names, each once. -/
def Gathered.declared (g : Gathered) (app : Application) : List String :=
  g.names.filter fun name => name ∈ app.resourceNames

/-- Those of them that no generated document replaces. -/
def Gathered.kept (g : Gathered) (app : Application) (assets : ManifestSet) : List String :=
  (g.declared app).filter fun name => name ∉ assetNames assets

/-- Those of them that a generated document replaces. -/
def Gathered.replaced (g : Gathered) (app : Application) (assets : ManifestSet) : List String :=
  (g.declared app).filter fun name => name ∈ assetNames assets

theorem replaced_append_kept_perm (g : Gathered) (app : Application) (assets : ManifestSet) :
    (g.replaced app assets ++ g.kept app assets).Perm (g.declared app) := by
  have hkept : g.kept app assets =
      (g.declared app).filter fun name => !decide (name ∈ assetNames assets) := by
    simp only [Gathered.kept, decide_not]
  rw [hkept, Gathered.replaced]
  exact List.filter_append_perm _ _

variable {reader : FileReader} {stdin : Bytes} {paths : List String} {g : Gathered}
  {app : Application} {assets composed : ManifestSet}

/-- The names that are composed are those of the kept inputs and of the generated documents: a
file of any other name could not be read. -/
theorem distinctNames_perm (hread : InputsRead reader stdin paths g.names g.files)
    (hfiles : ∀ name ∈ distinctNames (app.resourceNames ++ assetNames assets),
      ManifestSet.Readable (g.files.writeAll (assetFiles 0 assets)) name) :
    (distinctNames (app.resourceNames ++ assetNames assets)).Perm
      (g.kept app assets ++ assetNames assets) := by
  have hdisjoint : ∀ a ∈ g.kept app assets, ∀ b ∈ assetNames assets, a ≠ b := by
    rintro name hkept _ hasset rfl
    exact (of_decide_eq_true (List.mem_filter.mp hkept).2) hasset
  have hnodup : (g.kept app assets ++ assetNames assets).Nodup :=
    List.nodup_append.mpr ⟨(hread.nodup.filter _).filter _, nodup_assetNames assets, hdisjoint⟩
  refine (List.perm_ext_iff_of_nodup (nodup_distinctNames _) hnodup).mpr ?_
  intro name
  -- what the application names can be read, so it is an input or lies under a numbered name
  have hinput : name ∈ app.resourceNames → name ∉ assetNames assets → name ∈ g.names := by
    intro hname hasset
    obtain ⟨data, hdata, -⟩ := hfiles name
      (mem_distinctNames_iff.mpr (List.mem_append_left _ hname))
    rw [FileSet.read?_writeAll_of_not_mem hasset] at hdata
    exact (hread.isSome_iff name).mp (by rw [hdata]; rfl)
  rw [mem_distinctNames_iff, List.mem_append, List.mem_append]
  constructor
  · rintro (hname | hasset)
    · by_cases hasset : name ∈ assetNames assets
      · exact Or.inr hasset
      · have hmem := hinput hname hasset
        exact Or.inl (by simp [Gathered.kept, Gathered.declared, hmem, hname, hasset])
    · exact Or.inr hasset
  · rintro (hkept | hasset)
    · have hdeclared := (List.mem_filter.mp hkept).1
      exact Or.inl (of_decide_eq_true (List.mem_filter.mp hdeclared).2)
    · exact Or.inr hasset

/-! ### The documents that are composed -/

/-- What a manifest for an application is made of, when the generator made the given documents. -/
structure Composition (g : Gathered) (app : Application) (assets composed : ManifestSet) : Prop where
  /-- The documents are those of the kept inputs, as they were read, and all that were made. -/
  perm : composed.Perm ((g.kept app assets).flatMap (ManifestSet.documentsIn g.files) ++ assets)
  /-- So all inputs that the application names are there exactly if those that are replaced held
  no documents. -/
  complete_iff :
    composed.Perm ((g.declared app).flatMap (ManifestSet.documentsIn g.files) ++ assets) ↔
      ∀ name ∈ g.replaced app assets, ManifestSet.documentsIn g.files name = []

/-- Where the composed documents are those of the kept inputs and all that were made, the inputs are
complete exactly if the replaced ones held none. -/
theorem composition_of_perm
    (h : composed.Perm ((g.kept app assets).flatMap (ManifestSet.documentsIn g.files) ++ assets)) :
    Composition g app assets composed := by
  have hdeclared : ((g.declared app).flatMap (ManifestSet.documentsIn g.files)).Perm
      ((g.replaced app assets).flatMap (ManifestSet.documentsIn g.files) ++
        (g.kept app assets).flatMap (ManifestSet.documentsIn g.files)) := by
    rw [← List.flatMap_append]
    exact ((replaced_append_kept_perm g app assets).flatMap_right _).symm
  refine ⟨h, ?_⟩
  rw [← List.flatMap_eq_nil_iff]
  constructor
  · intro hcomplete
    -- the same number of documents is there with the replaced inputs and without them
    have hlength := (h.symm.trans (hcomplete.trans (hdeclared.append_right assets))).length_eq
    simp only [List.length_append] at hlength
    exact List.eq_nil_of_length_eq_zero (by omega)
  · intro hnone
    rw [hnone, List.nil_append] at hdeclared
    exact h.trans (hdeclared.symm.append_right assets)

/-- What is read of the named files and of the generated ones is the composition: a generated file
is read in place of an input of its name. -/
theorem composition_of_aggregate (hread : InputsRead reader stdin paths g.names g.files)
    {source : String} {data : Bytes} (hmade : ManifestSet.ofBytes source data = .ok assets)
    (hrereads : ∀ doc ∈ assets, doc.Rereads)
    (h : ManifestSet.aggregate (g.files.writeAll (assetFiles 0 assets))
      (distinctNames (app.resourceNames ++ assetNames assets)) = .ok composed) :
    Composition g app assets composed := by
  obtain ⟨hfiles, rfl⟩ := ManifestSet.aggregate_eq_ok_iff.mp h
  have hassets : ∀ doc ∈ assets, doc.IsRead ∧ doc.Rereads := by
    intro doc hdoc
    exact ⟨ManifestSet.isRead_of_ofBytes hmade doc hdoc, hrereads doc hdoc⟩
  -- the generated files are written over the replaced inputs only
  have hkept : (g.kept app assets).flatMap
      (ManifestSet.documentsIn (g.files.writeAll (assetFiles 0 assets))) =
      (g.kept app assets).flatMap (ManifestSet.documentsIn g.files) := by
    refine List.flatMap_congr fun name hname => ManifestSet.documentsIn_congr ?_
    exact FileSet.read?_writeAll_of_not_mem
      (of_decide_eq_true (List.mem_filter.mp hname).2) g.files
  have hgenerated : (assetNames assets).flatMap
      (ManifestSet.documentsIn (g.files.writeAll (assetFiles 0 assets))) = assets :=
    flatMap_documentsIn_assetFiles hassets fun entry hentry =>
      FileSet.read?_writeAll_of_mem (nodup_assetNames assets) hentry g.files
  refine composition_of_perm ?_
  have hperm := (distinctNames_perm hread hfiles).flatMap_right
    (ManifestSet.documentsIn (g.files.writeAll (assetFiles 0 assets)))
  rwa [List.flatMap_append, hkept, hgenerated] at hperm

/-! ### Runs that succeed -/

/-- The inputs are gathered if they can be read and hold one application and one experiment at most.
-/
theorem gather_eq_ok_iff : gather reader stdin paths = .ok g ↔
    readInputs reader stdin paths FileSet.empty = (.ok g.names, g.files) ∧
      ∃ inputs, ManifestSet.aggregate g.files g.names = .ok inputs ∧
        inputs.extractSingle .application Application.decode = .ok g.application? ∧
        inputs.extractSingle .experiment Experiment.decode = .ok g.experiment? := by
  rw [gather]
  cases hinputs : readInputs reader stdin paths FileSet.empty with
  | mk read files =>
      constructor
      · intro h
        obtain ⟨names, hnames, h⟩ := bind_eq_ok_iff.mp h
        obtain ⟨inputs, hset, h⟩ := bind_eq_ok_iff.mp h
        obtain ⟨application?, happlication, h⟩ := bind_eq_ok_iff.mp h
        obtain ⟨experiment?, hexperiment, h⟩ := bind_eq_ok_iff.mp h
        cases h
        exact ⟨by rw [hnames], inputs, hset, happlication, hexperiment⟩
      · rintro ⟨hread, inputs, hset, happlication, hexperiment⟩
        cases hread
        exact bind_eq_ok_iff.mpr ⟨_, rfl, bind_eq_ok_iff.mpr ⟨_, hset,
          bind_eq_ok_iff.mpr ⟨_, happlication, bind_eq_ok_iff.mpr ⟨_, hexperiment, rfl⟩⟩⟩⟩

/-- What the inputs hold is read from each of them. -/
theorem inputsRead_of_gather (h : gather reader stdin paths = .ok g) :
    InputsRead reader stdin paths g.names g.files ∧
      ∀ name ∈ g.names, ManifestSet.Readable g.files name := by
  obtain ⟨hinputs, inputs, hset, -, -⟩ := gather_eq_ok_iff.mp h
  exact ⟨inputsRead_of_readInputs hinputs, (ManifestSet.aggregate_eq_ok_iff.mp hset).1⟩

/-- The assets of an application can be used if they can be read. The experiment is the generated
one, and else that of the inputs. -/
theorem withAssets_eq_ok_iff {data : Bytes} {work : Workload} :
    withAssets g app data = .ok work ↔ ∃ assets generated?,
      ManifestSet.ofBytes Orchestration.generatedSource data = .ok assets ∧
      generatedExperiment? assets = .ok generated? ∧
      work = ⟨g.files.writeAll (assetFiles 0 assets), app.resourceNames ++ assetNames assets,
        generated?.or g.experiment?⟩ := by
  rw [withAssets]
  cases hassets : ManifestSet.ofBytes Orchestration.generatedSource data with
  | error e => simp
  | ok assets =>
      cases hgenerated : generatedExperiment? assets with
      | error e => simp [hgenerated]
      | ok generated? =>
          simp only [Except.ok.injEq, exists_and_left, exists_eq_left', hgenerated]
          exact eq_comm

theorem exists_of_withAssets {data : Bytes} {w : Workload} (h : withAssets g app data = .ok w) :
    ∃ assets, ManifestSet.ofBytes Orchestration.generatedSource data = .ok assets ∧
      w.files = g.files.writeAll (assetFiles 0 assets) ∧
      w.resources = app.resourceNames ++ assetNames assets := by
  obtain ⟨assets, generated?, hassets, -, rfl⟩ := withAssets_eq_ok_iff.mp h
  exact ⟨assets, hassets, rfl, rfl⟩

/-- What is printed in the end are the composed documents with patches applied to them. -/
theorem exists_of_finish {w : Workload} {experiment : Experiment} {item : TrialItem} {text : String}
    (h : finish w experiment item = .ok text) :
    ∃ composed, ManifestSet.aggregate w.files (distinctNames w.resources) = .ok composed ∧
      ∃ patches patched, applyPatches composed patches = .ok patched ∧ text = patched.toYaml := by
  rw [finish] at h
  split at h
  · cases h
  rename_i patches _
  obtain ⟨patched, hpatched, rfl⟩ := map_eq_ok_iff.mp h
  rw [overlay] at hpatched
  split at hpatched
  · cases hpatched
  rename_i composed hcomposed
  exact ⟨composed, hcomposed, patches, patched, hpatched, rfl⟩

variable {σ : Type} {service : TrialService σ} {selector : TrialSelector} {s s' : σ} {text : String}

theorem exists_of_complete {number : Nat} {w : Workload}
    (h : complete service number w s = (.ok text, s')) :
    ∃ experiment item, finish w experiment item = .ok text := by
  rw [complete] at h
  split at h
  · cases h
  rename_i experiment _
  cases hitem : resolveTrial service experiment.metadata.name number s with
  | mk found after =>
      cases found with
      | error e =>
          simp only [hitem] at h
          cases h
      | ok item =>
          simp only [hitem, Prod.mk.injEq] at h
          exact ⟨experiment, item, h.1⟩

/-- A manifest for an application is finished from a workload with generated documents. -/
theorem exists_of_trialManifest (hg : gather reader stdin paths = .ok g)
    (happ : g.application? = some app)
    (h : trialManifest service selector reader stdin paths s = (.ok text, s')) :
    ∃ data w, (service.generate app s).1 = .ok data ∧ withAssets g app data = .ok w ∧
      ∃ experiment item, finish w experiment item = .ok text := by
  rw [trialManifest] at h
  split at h
  · cases h
  -- a failure of any step would be the result, so each of them has succeeded
  simp only [hg, workload, happ] at h
  cases hmade : service.generate app s with
  | mk made after =>
      cases made with
      | error e =>
          simp only [hmade] at h
          cases h
      | ok data =>
          cases hw : withAssets g app data with
          | error e =>
              simp only [hmade, hw] at h
              cases h
          | ok w =>
              simp only [hmade, hw] at h
              exact ⟨data, w, rfl, hw, exists_of_complete h⟩

end TrialManifest

open TrialManifest in
/-- A manifest for an application is made of the inputs that the application names, each name once
and with its last input, and of all that the generator made, except for the inputs that a generated
document replaces. So it holds all of them exactly if no replaced input held a document. -/
theorem trialManifest_documents {σ : Type} {service : TrialService σ} {selector : TrialSelector}
    {reader : FileReader} {stdin : Bytes} {paths : List String} {s s' : σ} {text : String}
    (h : trialManifest service selector reader stdin paths s = (.ok text, s')) {g : Gathered}
    (hg : gather reader stdin paths = .ok g) {app : Application}
    (happ : g.application? = some app) :
    InputsRead reader stdin paths g.names g.files ∧
      (∀ name ∈ g.names, ManifestSet.Readable g.files name) ∧
      ∃ data assets w composed, (service.generate app s).1 = .ok data ∧
        ManifestSet.ofBytes Orchestration.generatedSource data = .ok assets ∧
        withAssets g app data = .ok w ∧
        ManifestSet.aggregate w.files (distinctNames w.resources) = .ok composed ∧
        (∃ patches patched, applyPatches composed patches = .ok patched ∧ text = patched.toYaml) ∧
        ((∀ doc ∈ assets, doc.Rereads) → Composition g app assets composed) := by
  obtain ⟨hread, hreadable⟩ := inputsRead_of_gather hg
  obtain ⟨data, w, hdata, hw, experiment, item, hfinish⟩ := exists_of_trialManifest hg happ h
  obtain ⟨assets, hassets, hfiles, hresources⟩ := exists_of_withAssets hw
  obtain ⟨composed, hcomposed, hpatched⟩ := exists_of_finish hfinish
  refine ⟨hread, hreadable, data, assets, w, composed, hdata, hassets, hw, hcomposed, hpatched, ?_⟩
  intro hrereads
  rw [hfiles, hresources] at hcomposed
  exact composition_of_aggregate hread hassets hrereads hcomposed

/-! ### An application with one resource, as an instance -/

/-- The experiment that is made of the application. -/
def shopExperiment : Document :=
  ⟨.experiment, .object [("apiVersion", .string "v1"), ("kind", .string "Experiment"),
    ("metadata", .object [("name", .string "shop")])]⟩

/-- The resource of the application. -/
def shopSettings : Document :=
  ⟨.configMap, .object [("apiVersion", .string "v1"), ("kind", .string "ConfigMap")]⟩

/-- Knows one trial, and makes the experiment. -/
def shopService : TrialService Unit where
  experiment name s := (.ok { name, trialsUrl := "trials" }, s)
  trials _ _ s := (.ok ⟨[{ number := 1 }]⟩, s)
  generate _ s := (.ok (Text.encode (Yaml.write shopExperiment.value)), s)

/-- Holds the application, and its resource under the given path. -/
def shopReader (resource : String) : FileReader := fun path =>
  .ok (Text.encode (
    if path = resource then Yaml.write shopSettings.value
    else "apiVersion: v1\nkind: Application\nresources: [" ++ resource ++ "]\n"))

/-- What the inputs hold when the application and its resource are given. -/
def shopInputs (resource : String) : Except Failure TrialManifest.Gathered :=
  TrialManifest.gather (shopReader resource) [] ["app.yaml", resource]

/-- The manifest of the trial when the application and its resource are given. -/
def shopManifest (resource : String) : Except Failure String × Unit :=
  trialManifest shopService (.byNumber 1) (shopReader resource) [] ["app.yaml", resource] ()

theorem rereads_shopExperiment : shopExperiment.Rereads := by
  rw [Document.Rereads]
  decide +kernel

theorem ofBytes_shopExperiment : ManifestSet.ofBytes Orchestration.generatedSource
    (Text.encode (Yaml.write shopExperiment.value)) = .ok [shopExperiment] := by
  decide +kernel

open TrialManifest in
/-- The resource and the experiment are there. -/
theorem trialManifest_documents_shop : ∃ g app composed, shopInputs "settings.yaml" = .ok g ∧
    g.application? = some app ∧ Composition g app [shopExperiment] composed ∧
    composed.Perm ((g.declared app).flatMap (ManifestSet.documentsIn g.files) ++
      [shopExperiment]) := by
  have hrun : shopManifest "settings.yaml" =
      (.ok (ManifestSet.toYaml [shopExperiment, shopSettings]), ()) := by
    decide +kernel
  have hinputs : (shopInputs "settings.yaml").map (fun g =>
      (g.names, g.application?.map Application.resourceNames)) =
      .ok (["app.yaml", "settings.yaml"], some ["settings.yaml"]) := by
    decide +kernel
  obtain ⟨g, hg, hfound⟩ := map_eq_ok_iff.mp hinputs
  obtain ⟨hnames, happlication⟩ := Prod.mk.inj hfound
  obtain ⟨app, happ, hresources⟩ := Option.map_eq_some_iff.mp happlication
  obtain ⟨-, -, data, assets, w, composed, hdata, hassets, -, -, -, hcomposition⟩ :=
    trialManifest_documents hrun hg happ
  cases hdata
  rw [ofBytes_shopExperiment] at hassets
  cases hassets
  have hcomposition := hcomposition (by simpa using rereads_shopExperiment)
  have hreplaced : g.replaced app [shopExperiment] = [] := by
    rw [Gathered.replaced, Gathered.declared, hnames, hresources]
    decide +kernel
  refine ⟨g, app, composed, hg, happ, hcomposition, hcomposition.complete_iff.mpr ?_⟩
  rw [hreplaced]
  nofun

open TrialManifest in
/-- A resource under the name of the first generated document is lost: what is composed is not all
that the application names and the generator made. -/
theorem trialManifest_resource_lost : ∃ g app data assets w composed,
    shopInputs "application-assets0.yaml" = .ok g ∧ g.application? = some app ∧
    shopManifest "application-assets0.yaml" = (.ok (ManifestSet.toYaml [shopExperiment]), ()) ∧
    (shopService.generate app ()).1 = .ok data ∧
    ManifestSet.ofBytes Orchestration.generatedSource data = .ok assets ∧
    (∀ doc ∈ assets, doc.Rereads) ∧ withAssets g app data = .ok w ∧
    ManifestSet.aggregate w.files (distinctNames w.resources) = .ok composed ∧
    ¬ composed.Perm ((g.declared app).flatMap (ManifestSet.documentsIn g.files) ++ assets) := by
  have hrun : shopManifest "application-assets0.yaml" =
      (.ok (ManifestSet.toYaml [shopExperiment]), ()) := by
    decide +kernel
  have hinputs : (shopInputs "application-assets0.yaml").map (fun g =>
      (g.names, g.application?.map Application.resourceNames,
        ManifestSet.documentsIn g.files "application-assets0.yaml")) =
      .ok (["app.yaml", "application-assets0.yaml"], some ["application-assets0.yaml"],
        [shopSettings]) := by
    decide +kernel
  obtain ⟨g, hg, hfound⟩ := map_eq_ok_iff.mp hinputs
  simp only [Prod.mk.injEq] at hfound
  obtain ⟨hnames, happlication, hsettings⟩ := hfound
  obtain ⟨app, happ, hresources⟩ := Option.map_eq_some_iff.mp happlication
  obtain ⟨data, w, hdata, hw, experiment, item, hfinish⟩ := exists_of_trialManifest hg happ hrun
  obtain ⟨assets, hassets, hfiles, hnamed⟩ := exists_of_withAssets hw
  obtain ⟨composed, hcomposed, -⟩ := exists_of_finish hfinish
  have hmade : ManifestSet.ofBytes Orchestration.generatedSource data = .ok [shopExperiment] := by
    cases hdata
    exact ofBytes_shopExperiment
  rw [hassets] at hmade
  cases hmade
  have hrereads : ∀ doc ∈ [shopExperiment], doc.Rereads := by simpa using rereads_shopExperiment
  refine ⟨g, app, data, _, w, composed, hg, happ, hrun, hdata, hassets, hrereads, hw, hcomposed, ?_⟩
  intro hcomplete
  rw [hfiles, hnamed] at hcomposed
  have hcomposition :=
    composition_of_aggregate (inputsRead_of_gather hg).1 hassets hrereads hcomposed
  have hmem : "application-assets0.yaml" ∈ g.replaced app [shopExperiment] := by
    rw [Gathered.replaced, Gathered.declared, hnames, hresources]
    decide +kernel
  have hnone := hcomposition.complete_iff.mp hcomplete _ hmem
  rw [hsettings] at hnone
  cases hnone

end ClusterTuning
