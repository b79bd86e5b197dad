import ClusterTuning.Proofs.Overlay
import ClusterTuning.Proofs.Patch.Place

/-!
# ClusterTuning.Proofs.Overlay.Reordering

**Patches for different objects commute.**

Merging depends on order: named items are appended, and of two values the later one stays. But a
patch is merged only into documents that have the kind and the name of its target, and it leaves
them both as they are, though not the version of the API. So a document is changed by the patches
for its own kind and name alone, whatever the others do in between (`Document.run_named`). Lists of
templates that have for each kind and name the same templates in the same order therefore make the
same of every document.

## Main statements

* `Document.run_named`: a run over a document is the run of the patches for its kind and name.
* `applyPatches_reordered`: templates for different objects may change places.
-/

namespace ClusterTuning

/-! ### The object that a patch is for -/

/-- The kind and the name that a patch is for. -/
def RenderedPatch.names (p : RenderedPatch) : String × String :=
  (p.target.kind, p.target.name)

/-- The kind and the name of a document. -/
def Document.names (doc : Document) : String × String :=
  (doc.kind.name, doc.name)

/-- The kind and the name that a template is for, once its target is rendered. -/
def Patch.targetNames? (context : PatchContext) (t : PatchTemplate) : Option (String × String) :=
  (renderTarget (keyAt 0) context t.targetRef).toOption.map fun target =>
    (target.kind, target.name)

/-- The templates for a kind and a name, in order. -/
def Patch.templatesFor (context : PatchContext) (names : String × String)
    (templates : List PatchTemplate) : List PatchTemplate :=
  templates.filter fun t => targetNames? context t = some names

namespace Patch

variable {context : PatchContext}

/-- A template that can be rendered is for the kind and the name of its patch. -/
theorem targetNames?_of_rendered? {t : PatchTemplate} {p : RenderedPatch}
    (h : rendered? context t = some p) : targetNames? context t = some p.names := by
  obtain ⟨q, hq, rfl⟩ := Option.map_eq_some_iff.mp h
  cases hone : renderOne context 0 t with
  | error e =>
      rw [hone] at hq
      cases hq
  | ok r =>
      rw [hone] at hq
      cases hq
      obtain ⟨target, fields, htarget, -, rfl⟩ := exists_of_renderOne hone
      rw [targetNames?, htarget]
      rfl

/-- The patches for a kind and a name are those of the templates for them. -/
theorem filter_names_filterMap_rendered? (names : String × String)
    (templates : List PatchTemplate) :
    (templates.filterMap (rendered? context)).filter (fun p => p.names = names) =
      (templatesFor context names templates).filterMap (rendered? context) := by
  rw [templatesFor]
  induction templates with
  | nil => rfl
  | cons t rest ih =>
      cases hrendered : rendered? context t with
      | none =>
          -- whatever it is for, the template gives no patch
          rw [List.filterMap_cons_none hrendered, ih, List.filter_cons]
          split
          · rw [List.filterMap_cons_none hrendered]
          · rfl
      | some p =>
          have hnames := targetNames?_of_rendered? hrendered
          rw [List.filterMap_cons_some hrendered]
          by_cases hp : p.names = names
          · rw [List.filter_cons_of_pos (by simp [hp]), List.filter_cons_of_pos (by simp [hnames, hp]),
              List.filterMap_cons_some hrendered, ih]
          · rw [List.filter_cons_of_neg (by simp [hp]), List.filter_cons_of_neg (by simp [hnames, hp]),
              ih]

end Patch

/-! ### Documents see the patches for their own kind and name -/

namespace RenderedPatch

variable {p : RenderedPatch} {doc : Document}

/-- A patch selects only documents of its own kind and name. -/
theorem Legible.names_eq_of_selects (hp : p.Legible) (h : p.target.selects doc = true) :
    p.names = doc.names := by
  obtain ⟨t, ht, -, -⟩ := hp
  obtain ⟨-, hkind, hname, -⟩ := Selector.selects_iff.mp h
  rw [ht.target_eq] at hkind hname
  have hkind : t.kind = doc.kind.name := (Selector.accepts_iff.mp hkind).resolve_left ht.kind_ne
  have hname : t.name = doc.name := (Selector.accepts_iff.mp hname).resolve_left ht.name_ne
  rw [names, ht.target_eq, Document.names, ← hkind, ← hname]
  rfl

theorem Legible.onto_of_names_ne (hp : p.Legible) (h : p.names ≠ doc.names) : p.onto doc = doc := by
  refine onto_of_not_selects ?_
  by_contra hselects
  exact h (hp.names_eq_of_selects (Bool.eq_true_of_not_eq_false hselects))

/-- A patch leaves the kind and the name of a document. -/
theorem Legible.names_onto (hp : p.Legible) (hdoc : doc.IsRead) :
    (p.onto doc).names = doc.names := by
  obtain ⟨-, hkind, hname, -⟩ := hp.within_onto hdoc
  exact Prod.ext (congrArg ResourceKind.name hkind) hname

end RenderedPatch

namespace Document

variable {doc : Document} {patches : PatchSet}

/-- Keys do not matter to a run. -/
theorem run_map_keyless (doc : Document) (patches : PatchSet) :
    doc.run (patches.map RenderedPatch.keyless) = doc.run patches :=
  List.foldl_map

/-- A run over a document is the run of the patches for its kind and name. -/
theorem run_named (hdoc : doc.IsRead) (hpatches : ∀ p ∈ patches, p.Legible) :
    doc.run (patches.filter fun p => p.names = doc.names) = doc.run patches := by
  induction patches generalizing doc with
  | nil => rfl
  | cons p rest ih =>
      have hp : p.Legible := hpatches p List.mem_cons_self
      have hrest : ∀ q ∈ rest, q.Legible := fun q hq => hpatches q (List.mem_cons_of_mem _ hq)
      by_cases hnames : p.names = doc.names
      · have hnext := ih (hp.isRead_onto hdoc) hrest
        rw [hp.names_onto hdoc] at hnext
        rw [List.filter_cons_of_pos (by simp [hnames]), run_cons, run_cons, hnext]
      · rw [List.filter_cons_of_neg (by simp [hnames]), run_cons, hp.onto_of_names_ne hnames]
        exact ih hdoc hrest

end Document

/-! ### Reordered templates -/

section

variable {templates others : List PatchTemplate} {trial : Trial} {patches reordered : PatchSet}

/-- The patches for a kind and a name, without their keys, are made from the templates for them. -/
theorem filter_names_keyless_of_renderPatches (h : renderPatches templates trial = .ok patches)
    (names : String × String) :
    ((patches.filter fun p => p.names = names).map RenderedPatch.keyless) =
      (Patch.templatesFor trial.context names templates).filterMap
        (Patch.rendered? trial.context) := by
  rw [← Patch.filter_names_filterMap_rendered?, Patch.map_keyless_of_renderFrom h, List.filter_map]
  rfl

/-- The patches of reordered templates make the same of a document. -/
theorem Document.run_reordered {doc : Document} (hdoc : doc.IsRead)
    (hpatches : renderPatches templates trial = .ok patches)
    (hreordered : renderPatches others trial = .ok reordered)
    (hlegible : ∀ p ∈ patches, p.Legible) (hlegible' : ∀ p ∈ reordered, p.Legible)
    (horder : ∀ names, Patch.templatesFor trial.context names templates =
      Patch.templatesFor trial.context names others) :
    doc.run patches = doc.run reordered := by
  calc doc.run patches
      = doc.run (patches.filter fun p => p.names = doc.names) := (run_named hdoc hlegible).symm
    _ = doc.run ((patches.filter fun p => p.names = doc.names).map RenderedPatch.keyless) :=
        (run_map_keyless _ _).symm
    _ = doc.run ((reordered.filter fun p => p.names = doc.names).map RenderedPatch.keyless) := by
        rw [filter_names_keyless_of_renderPatches hpatches, horder,
          filter_names_keyless_of_renderPatches hreordered]
    _ = doc.run (reordered.filter fun p => p.names = doc.names) := run_map_keyless _ _
    _ = doc.run reordered := run_named hdoc hlegible'

/-- Reordered templates give bodies that can be read if those before can. -/
theorem read?_of_reordered (hperm : templates.Perm others)
    (hpatches : renderPatches templates trial = .ok patches)
    (hreordered : renderPatches others trial = .ok reordered)
    (hread : ∀ p ∈ patches, Json.read? p.body = some p.content) :
    ∀ p ∈ reordered, Json.read? p.body = some p.content := by
  have hkeyless : (patches.map RenderedPatch.keyless).Perm (reordered.map RenderedPatch.keyless) := by
    rw [← Patch.map_keyless_of_renderFrom hpatches, ← Patch.map_keyless_of_renderFrom hreordered]
    exact hperm.filterMap _
  intro p hp
  obtain ⟨q, hq, hqp⟩ := List.mem_map.mp (hkeyless.mem_iff.mpr (List.mem_map_of_mem hp))
  -- the two patches differ in their keys alone, so they have one body
  have hbody : q.body = p.body := by
    rw [← RenderedPatch.body_keyless q, hqp, RenderedPatch.body_keyless]
  have hq := hread q hq
  rw [RenderedPatch.content, hbody] at hq
  exact hq

/-- Templates in another order make the same documents, if those for each kind and name keep theirs:
no document is selected by patches for two names. -/
theorem applyPatches_of_reordered {sources : List (String × Bytes)} {set patched : ManifestSet}
    (hset : ManifestSet.extendAll [] sources = .ok set) (hperm : templates.Perm others)
    (horder : ∀ names, Patch.templatesFor trial.context names templates =
      Patch.templatesFor trial.context names others)
    (hpatches : renderPatches templates trial = .ok patches)
    (hreordered : renderPatches others trial = .ok reordered)
    (h : applyPatches set patches = .ok patched) : applyPatches set reordered = .ok patched := by
  obtain ⟨hread, rfl⟩ := applyPatches_eq_ok_iff.mp h
  have hread' := read?_of_reordered hperm hpatches hreordered hread
  refine applyPatches_eq_ok_iff.mpr ⟨hread', List.map_congr_left fun doc hdoc => ?_⟩
  exact Document.run_reordered (ManifestSet.isRead_of_extendAll hset doc hdoc) hpatches hreordered
    (legible_of_renderPatches hpatches hread) (legible_of_renderPatches hreordered hread') horder

/-- Templates may change places if those for one kind and name keep their order: the templates can
be rendered exactly if they could before, and their patches make the same of any documents, if
anything. -/
theorem applyPatches_reordered (hperm : templates.Perm others)
    (horder : ∀ names, Patch.templatesFor trial.context names templates =
      Patch.templatesFor trial.context names others) :
    ((∃ patches, renderPatches templates trial = .ok patches) ↔
        ∃ reordered, renderPatches others trial = .ok reordered) ∧
      ∀ patches reordered, renderPatches templates trial = .ok patches →
        renderPatches others trial = .ok reordered →
          ∀ sources set, ManifestSet.extendAll [] sources = .ok set →
            ∀ patched, applyPatches set patches = .ok patched ↔
              applyPatches set reordered = .ok patched := by
  constructor
  · rw [renderPatches, renderPatches, Patch.exists_renderFrom_iff, Patch.exists_renderFrom_iff]
    exact forall_congr' fun t => imp_congr_left hperm.mem_iff
  · intro patches reordered hpatches hreordered sources set hset patched
    constructor
    · exact applyPatches_of_reordered hset hperm horder hpatches hreordered
    · exact applyPatches_of_reordered hset hperm.symm (fun names => (horder names).symm) hreordered
        hpatches

/-- A template for another deployment. -/
def apiTemplate : PatchTemplate :=
  { patch := "\x7b\x7d", targetRef := { kind := "Deployment", name := "api" } }

/-- Two deployments are patched in either order. -/
theorem applyPatches_reordered_web : ∃ patches reordered,
    renderPatches [webTemplate "" "\x7b\x7d", apiTemplate] ⟨"t-1", "", 1, []⟩ = .ok patches ∧
    renderPatches [apiTemplate, webTemplate "" "\x7b\x7d"] ⟨"t-1", "", 1, []⟩ = .ok reordered ∧
    patches ≠ reordered ∧ ∀ patched, applyPatches [web "apps/v1"] patches = .ok patched ↔
      applyPatches [web "apps/v1"] reordered = .ok patched := by
  have hweb : Patch.targetNames? (Trial.context ⟨"t-1", "", 1, []⟩) (webTemplate "" "\x7b\x7d") =
      some ("Deployment", "web") := by
    decide +kernel
  have hapi : Patch.targetNames? (Trial.context ⟨"t-1", "", 1, []⟩) apiTemplate =
      some ("Deployment", "api") := by
    decide +kernel
  have hpatches : renderPatches [webTemplate "" "\x7b\x7d", apiTemplate] ⟨"t-1", "", 1, []⟩ =
      .ok [webPatch "patch-0" "" [], ⟨"patch-1", [("apiVersion", .string ""),
        ("kind", .string "Deployment"), ("metadata", .object [("name", .string "api")])],
        ⟨"", "", "Deployment", "api", ""⟩⟩] := by
    decide +kernel
  have hreordered : renderPatches [apiTemplate, webTemplate "" "\x7b\x7d"] ⟨"t-1", "", 1, []⟩ =
      .ok [⟨"patch-0", [("apiVersion", .string ""), ("kind", .string "Deployment"),
        ("metadata", .object [("name", .string "api")])], ⟨"", "", "Deployment", "api", ""⟩⟩,
        webPatch "patch-1" "" []] := by
    decide +kernel
  have horder : ∀ names, Patch.templatesFor (Trial.context ⟨"t-1", "", 1, []⟩) names
      [webTemplate "" "\x7b\x7d", apiTemplate] =
      Patch.templatesFor (Trial.context ⟨"t-1", "", 1, []⟩) names
        [apiTemplate, webTemplate "" "\x7b\x7d"] := by
    intro names
    -- no name is both, so at most one of the two templates is left
    by_cases hnames : names = ("Deployment", "web")
    · subst hnames
      simp [Patch.templatesFor, hweb, hapi]
    · have hother : ¬ ("Deployment", "web") = names := fun h => hnames h.symm
      simp [Patch.templatesFor, List.filter_cons, hweb, hother]
  refine ⟨_, _, hpatches, hreordered, by decide, ?_⟩
  exact (applyPatches_reordered (List.Perm.swap _ _ []) horder).2 _ _ hpatches hreordered _ _
    extendAll_webSource

end

end ClusterTuning
