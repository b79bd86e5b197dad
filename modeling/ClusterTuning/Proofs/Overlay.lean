import ClusterTuning.Proofs.Overlay.Run

/-!
# ClusterTuning.Proofs.Overlay

**What the patches of a trial do to parsed manifests.**

## Main statements

* `applyPatches_each`: patches act on each document alone, in the order of the patches.
* `applyPatches_again`: laying the patches over their own result changes nothing.
* `identity_applyPatches_iff`: kind, name and namespace of a document never change, and its
  version of the API stays exactly if every patch that selects it names that version.
-/

namespace ClusterTuning

/-! ### Numbers do not name items -/

namespace Value

@[simp] theorem itemName?_numberless (v : Value) : v.numberless.itemName? = v.itemName? := by
  rw [itemName?, itemName?, get?_numberless]
  cases v.get? "name" <;> simp

theorem map_itemName?_numberless (items : List Value) :
    (itemsNumberless items).map itemName? = items.map itemName? := by
  induction items with
  | nil => rfl
  | cons v rest ih => rw [itemsNumberless, List.map_cons, List.map_cons, ih, itemName?_numberless]

theorem allNamed_numberless (items : List Value) :
    allNamed (itemsNumberless items) = allNamed items := by
  induction items with
  | nil => rfl
  | cons v rest ih =>
      rw [allNamed, allNamed] at ih
      rw [itemsNumberless, allNamed, allNamed, List.all_cons, List.all_cons, ih,
        itemName?_numberless]

mutual

theorem namesOnce_numberless : ∀ v : Value, v.numberless.namesOnce = v.namesOnce
  | .null | .bool _ | .number _ | .string _ => rfl
  | .array items => by
      rw [numberless, namesOnce, namesOnce, allNamed_numberless, map_itemName?_numberless,
        itemsNameOnce_numberless items]
  | .object fields => by
      rw [numberless, namesOnce, namesOnce, fieldsNameOnce_numberless fields]

theorem itemsNameOnce_numberless : ∀ items : List Value,
    itemsNameOnce (itemsNumberless items) = itemsNameOnce items
  | [] => rfl
  | v :: rest => by
      rw [itemsNumberless, itemsNameOnce, itemsNameOnce, namesOnce_numberless v,
        itemsNameOnce_numberless rest]

theorem fieldsNameOnce_numberless : ∀ fields : List (String × Value),
    fieldsNameOnce (fieldsNumberless fields) = fieldsNameOnce fields
  | [] => rfl
  | (_, v) :: rest => by
      rw [fieldsNumberless, fieldsNameOnce, fieldsNameOnce, namesOnce_numberless v,
        fieldsNameOnce_numberless rest]

end

end Value

/-- What the body of a rendered patch reads as names no item twice if the patch does not. -/
theorem RenderedPatch.namesOnce_content {p : RenderedPatch} (hp : p.Legible)
    (hread : Json.read? p.body = some p.content)
    (honce : (Value.object p.fields).namesOnce = true) : p.content.namesOnce = true := by
  obtain ⟨t, ht, -⟩ := hp
  rw [← Value.namesOnce_numberless, Json.numberless_of_read?_write ht.isCanonical hread,
    Value.namesOnce_numberless]
  exact honce

/-! ### A deployment with patches, as an instance -/

/-- The source of a deployment. -/
def webSource : String × Bytes :=
  ("web.yaml", Text.encode "apiVersion: apps/v1\nkind: Deployment\nmetadata:\n  name: web\n")

/-- The deployment under a version of the API. -/
def web (apiVersion : String) : Document :=
  ⟨.other "Deployment", .object [("apiVersion", .string apiVersion), ("kind", .string "Deployment"),
    ("metadata", .object [("name", .string "web")])]⟩

/-- A patch template for the deployment. -/
def webTemplate (apiVersion patch : String) : PatchTemplate :=
  { patch, targetRef := { apiVersion, kind := "Deployment", name := "web" } }

/-- A rendered patch for the deployment, with fields behind those of the target. -/
def webPatch (key apiVersion : String) (more : List (String × Value)) : RenderedPatch :=
  ⟨key, [("apiVersion", .string apiVersion), ("kind", .string "Deployment"),
    ("metadata", .object [("name", .string "web")])] ++ more,
    Selector.ofTarget { apiVersion, kind := "Deployment", name := "web" }⟩

theorem extendAll_webSource : ManifestSet.extendAll [] [webSource] = .ok [web "apps/v1"] := by
  decide +kernel

/-! ### Each document alone -/

section

variable {sources : List (String × Bytes)} {set : ManifestSet}
  {templates : List PatchTemplate} {trial : Trial} {patches : PatchSet}

/-- Patches in order, each merged into the content of the document as it is when the target selects
the document. The kind that was read stays. -/
def Document.folded (patches : PatchSet) (doc : Document) : Document :=
  patches.foldl (fun doc p =>
    if p.target.selects doc then { doc with value := doc.value.mergePatch (.object p.fields) }
    else doc) doc

/-- Applying patches is merging the fields of those that select the document, one after the other.
-/
theorem Document.run_eq_folded (hread : ∀ p ∈ patches, Json.read? p.body = some (.object p.fields))
    (doc : Document) : doc.run patches = doc.folded patches := by
  induction patches generalizing doc with
  | nil => rfl
  | cons p rest ih =>
      have hcontent := RenderedPatch.content_of_read? (hread p List.mem_cons_self)
      rw [run_cons, ih (fun q hq => hread q (List.mem_cons_of_mem _ hq)), RenderedPatch.onto,
        hcontent]
      rfl

/-- Patches whose bodies read back act on each document alone: the document at a place becomes
what the patches make of it in their order, a document that none of them selects stays, and
the kind that was read remains the kind of the content. -/
theorem applyPatches_each (hset : ManifestSet.extendAll [] sources = .ok set)
    (hpatches : renderPatches templates trial = .ok patches)
    (hread : ∀ p ∈ patches, Json.read? p.body = some (.object p.fields)) :
    ∃ patched, applyPatches set patches = .ok patched ∧ patched.length = set.length ∧
      (∀ (i : Nat) (doc : Document), set[i]? = some doc →
        patched[i]? = some (doc.folded patches)) ∧
      (∀ (i : Nat) (doc : Document), set[i]? = some doc →
        (∀ p ∈ patches, p.target.selects doc = false) → patched[i]? = some doc) ∧
      ∀ doc ∈ patched, doc.kind = (Document.ofValue doc.value).kind := by
  have hcontent : ∀ p ∈ patches, Json.read? p.body = some p.content := by
    intro p hp
    rw [RenderedPatch.content_of_read? (hread p hp)]
    exact hread p hp
  have hlegible := legible_of_renderPatches hpatches hcontent
  refine ⟨set.map fun doc => doc.run patches, applyPatches_eq_ok_iff.mpr ⟨hcontent, rfl⟩,
    List.length_map _, fun i doc hdoc => ?_, fun i doc hdoc hnone => ?_, fun doc hdoc => ?_⟩
  · rw [List.getElem?_map, hdoc, Option.map_some, Document.run_eq_folded hread]
  · rw [List.getElem?_map, hdoc, Option.map_some, Document.run_of_not_selects hnone]
  · obtain ⟨before, hbefore, rfl⟩ := List.mem_map.mp hdoc
    exact (Document.isRead_run (ManifestSet.isRead_of_extendAll hset before hbefore)
      hlegible).kind_eq

/-- The source of a config map. -/
def limitsSource : String × Bytes :=
  ("limits.yaml", Text.encode "apiVersion: v1\nkind: ConfigMap\nmetadata:\n  name: limits\n")

/-- The config map. -/
def limits : Document :=
  ⟨.configMap, .object [("apiVersion", .string "v1"), ("kind", .string "ConfigMap"),
    ("metadata", .object [("name", .string "limits")])]⟩

/-- Three patches for the deployment. The second one names no version of the API. -/
def webTemplates : List PatchTemplate :=
  [webTemplate "apps/v1" "\x7b\"spec\":\x7b\"paused\":true,\"replicas\":1\x7d\x7d",
    webTemplate "" "\x7b\"spec\":\x7b\"paused\":null,\"replicas\":2\x7d\x7d",
    webTemplate "apps/v1" "\x7b\"spec\":\x7b\"replicas\":3\x7d\x7d"]

/-- The second patch is merged into what the first one has left, and takes the version of the API
away, so that the third one does not select the deployment any more. The config map stays. -/
theorem applyPatches_each_web : ∃ (patches : PatchSet) (patched : ManifestSet),
    renderPatches webTemplates ⟨"t-1", "", 1, []⟩ = .ok patches ∧
      applyPatches [web "apps/v1", limits] patches = .ok patched ∧ patched.length = 2 ∧
      patched[0]? = some ⟨.other "Deployment", .object [("apiVersion", .string ""),
        ("kind", .string "Deployment"), ("metadata", .object [("name", .string "web")]),
        ("spec", .object [("replicas", .number (.int 2))])]⟩ ∧
      patched[1]? = some limits := by
  have hset : ManifestSet.extendAll [] [webSource, limitsSource] =
      .ok [web "apps/v1", limits] := by
    decide +kernel
  have hpatches : renderPatches webTemplates ⟨"t-1", "", 1, []⟩ =
      .ok [webPatch "patch-0" "apps/v1" [("spec", .object [("paused", .bool true),
          ("replicas", .number (.int 1))])],
        webPatch "patch-1" "" [("spec", .object [("paused", .null),
          ("replicas", .number (.int 2))])],
        webPatch "patch-2" "apps/v1" [("spec", .object [("replicas", .number (.int 3))])]] := by
    decide +kernel
  obtain ⟨patched, hpatched, hlength, heach, hnone, -⟩ :=
    applyPatches_each hset hpatches (by decide +kernel)
  refine ⟨_, patched, hpatches, hpatched, hlength, ?_, ?_⟩
  · rw [heach 0 _ rfl]
    decide +kernel
  · exact hnone 1 limits rfl (by decide +kernel)

/-! ### A second time -/

/-- Laying patches that name no item twice over their own result changes nothing. -/
theorem applyPatches_again (hset : ManifestSet.extendAll [] sources = .ok set)
    (hpatches : renderPatches templates trial = .ok patches)
    (honce : ∀ p ∈ patches, (Value.object p.fields).namesOnce = true) :
    ((applyPatches set patches).bind fun once => applyPatches once patches) =
      applyPatches set patches := by
  cases hfirst : applyPatches set patches with
  | error e => rfl
  | ok once =>
      obtain ⟨hread, rfl⟩ := applyPatches_eq_ok_iff.mp hfirst
      have hlegible := legible_of_renderPatches hpatches hread
      have hagain : ∀ doc ∈ set, (doc.run patches).run patches = doc.run patches := fun doc hdoc =>
        Document.run_run (ManifestSet.isRead_of_extendAll hset doc hdoc) hlegible fun p hp =>
          p.namesOnce_content (hlegible p hp) (hread p hp) (honce p hp)
      refine applyPatches_eq_ok_iff.mpr ⟨hread, ?_⟩
      rw [List.map_map]
      exact List.map_congr_left fun doc hdoc => (hagain doc hdoc).symm

/-- A patch that adds a named item. -/
theorem applyPatches_again_web : ∃ patches,
    renderPatches [webTemplate "apps/v1" "\x7b\"spec\":[\x7b\"name\":\"a\"\x7d]\x7d"]
      ⟨"t-1", "", 1, []⟩ = .ok patches ∧
    ((applyPatches [web "apps/v1"] patches).bind fun once => applyPatches once patches) =
      applyPatches [web "apps/v1"] patches := by
  have hpatches :
      renderPatches [webTemplate "apps/v1" "\x7b\"spec\":[\x7b\"name\":\"a\"\x7d]\x7d"]
        ⟨"t-1", "", 1, []⟩ =
      .ok [webPatch "patch-0" "apps/v1" [("spec", .array [.object [("name", .string "a")]])]] := by
    decide +kernel
  exact ⟨_, hpatches, applyPatches_again extendAll_webSource hpatches (by decide +kernel)⟩

/-! ### What a document is -/

theorem Document.address_eq_of_within {a b : Document} (h : a.address.Within b.address)
    (hversion : a.apiVersion = b.apiVersion) : a.address = b.address := by
  refine h.antisymm ?_
  have hsame : a.groupVersion = b.groupVersion := congrArg ApiVersion.ofString hversion
  rw [address, address, hsame]
  exact ApiVersion.Accepts.refl _

namespace Document

/-- What a document says it is. -/
def identity (doc : Document) : String × ResourceKind × String × String :=
  (doc.apiVersion, doc.kind, doc.name, doc.effectiveNamespace)

/-- Every patch that selects the document names its version of the API, and the last one in the
very text. -/
def VersionNamed (patches : PatchSet) (doc : Document) : Prop :=
  (∀ p ∈ PatchSet.selecting doc patches, p.target.wanted = doc.groupVersion) ∧
    ∀ p ∈ (PatchSet.selecting doc patches).getLast?, p.apiVersion = doc.apiVersion

/-- The version that a document gives stays exactly if all patches that select it are for this
version and the last one has its text. A patch with less of a version would leave less. -/
theorem apiVersion_run_eq_iff {doc : Document} (hdoc : doc.IsRead)
    (hpatches : ∀ p ∈ patches, p.Legible) :
    (doc.run patches).apiVersion = doc.apiVersion ↔ doc.VersionNamed patches := by
  constructor
  · intro hversion
    have haddress : (doc.run patches).address = doc.address :=
      address_eq_of_within (within_run hdoc hpatches) hversion
    -- the address stays as well, so the same patches select the document in the end
    have hrests : ∀ p ∈ patches, p.target.selects doc = true →
        p.target.wanted = doc.groupVersion := by
      intro p hp hselects
      rw [← Selector.selects_eq_of_address_eq haddress] at hselects
      rw [wanted_of_selects_run hdoc hpatches hp hselects, groupVersion, hversion, groupVersion]
    refine ⟨fun p hp => ?_, fun p hp => ?_⟩
    · obtain ⟨hmem, hselects⟩ := PatchSet.mem_selecting_iff.mp hp
      exact hrests p hmem hselects
    · have hlast := apiVersion_run_of_wanted hdoc hpatches hrests
      rw [Option.mem_def.mp hp, hversion] at hlast
      exact hlast.symm
  · rintro ⟨hwanted, hlast⟩
    rw [apiVersion_run_of_wanted hdoc hpatches fun p hp hselects =>
      hwanted p (PatchSet.mem_selecting_iff.mpr ⟨hp, hselects⟩)]
    cases h : (PatchSet.selecting doc patches).getLast? with
    | none => rfl
    | some p => exact hlast p h

/-- The kind, the name and the namespace of a document stay. -/
theorem identity_snd_run {doc : Document} (hdoc : doc.IsRead)
    (hpatches : ∀ p ∈ patches, p.Legible) : (doc.run patches).identity.2 = doc.identity.2 := by
  obtain ⟨-, hkind, hname, hnamespace⟩ := within_run hdoc hpatches
  exact Prod.ext hkind (Prod.ext hname hnamespace)

/-- Where the version of a document stays in the end, its address stays throughout. -/
theorem address_run_of_versionNamed {doc : Document} (hdoc : doc.IsRead)
    (hpatches : ∀ p ∈ patches, p.Legible) {before after : PatchSet}
    (hsplit : patches = before ++ after) (h : doc.VersionNamed patches) :
    (doc.run before).address = doc.address := by
  have hversion := (apiVersion_run_eq_iff hdoc hpatches).mpr h
  have haddress := address_eq_of_within (within_run hdoc hpatches) hversion
  have hbefore : ∀ p ∈ before, p.Legible := fun p hp =>
    hpatches p (hsplit ▸ List.mem_append_left _ hp)
  have hrest : ∀ p ∈ after, p.Legible := fun p hp =>
    hpatches p (hsplit ▸ List.mem_append_right _ hp)
  have hafter := within_run (isRead_run hdoc hbefore) hrest
  rw [← run_append, ← hsplit, haddress] at hafter
  exact (within_run hdoc hbefore).antisymm hafter.version

end Document

/-- Kind, name and namespace of a document never change. The version of the API stays in all
documents exactly if every patch that selects a document names the version of that document,
and then every selector selects the same documents throughout. -/
theorem identity_applyPatches_iff {patched : ManifestSet}
    (hset : ManifestSet.extendAll [] sources = .ok set)
    (hpatches : renderPatches templates trial = .ok patches)
    (hpatched : applyPatches set patches = .ok patched) :
    patched.map (fun doc => doc.identity.2) = set.map (fun doc => doc.identity.2) ∧
      (patched.map Document.identity = set.map Document.identity ↔
        ∀ doc ∈ set, doc.VersionNamed patches) ∧
      ((∀ doc ∈ set, doc.VersionNamed patches) → ∀ before after mid, patches = before ++ after →
        applyPatches set before = .ok mid →
          ∀ s : Selector, mid.map s.selects = set.map s.selects) := by
  obtain ⟨hread, rfl⟩ := applyPatches_eq_ok_iff.mp hpatched
  have hlegible := legible_of_renderPatches hpatches hread
  have hdocs := ManifestSet.isRead_of_extendAll hset
  refine ⟨?_, ?_, fun hnamed before after mid hsplit hmid s => ?_⟩
  · rw [List.map_map]
    exact List.map_congr_left fun doc hdoc =>
      Document.identity_snd_run (hdocs doc hdoc) hlegible
  · rw [List.map_map, List.map_inj_left]
    refine forall₂_congr ?_
    intro doc hdoc
    rw [← Document.apiVersion_run_eq_iff (hdocs doc hdoc) hlegible]
    exact Prod.ext_iff.trans (and_iff_left (Document.identity_snd_run (hdocs doc hdoc) hlegible))
  · obtain ⟨-, rfl⟩ := applyPatches_eq_ok_iff.mp hmid
    rw [List.map_map]
    refine List.map_congr_left fun doc hdoc => Selector.selects_eq_of_address_eq ?_
    exact Document.address_run_of_versionNamed (hdocs doc hdoc) hlegible hsplit (hnamed doc hdoc)

/-- A patch that names the version of the deployment keeps it. -/
theorem identity_applyPatches_iff_web : ∃ patches, renderPatches [webTemplate "apps/v1" "\x7b\x7d"]
    ⟨"t-1", "", 1, []⟩ = .ok patches ∧ ∃ patched : ManifestSet,
      applyPatches [web "apps/v1"] patches = .ok patched ∧
      (patched.map Document.identity = [web "apps/v1"].map Document.identity ↔
        ∀ doc ∈ [web "apps/v1"], doc.VersionNamed patches) := by
  have hpatches : renderPatches [webTemplate "apps/v1" "\x7b\x7d"] ⟨"t-1", "", 1, []⟩ =
      .ok [webPatch "patch-0" "apps/v1" []] := by
    decide +kernel
  have hpatched : applyPatches [web "apps/v1"] [webPatch "patch-0" "apps/v1" []] =
      .ok [web "apps/v1"] := by
    decide +kernel
  exact ⟨_, hpatches, _, hpatched,
    (identity_applyPatches_iff extendAll_webSource hpatches hpatched).2.1⟩

/-- A patch without a version takes the version of the deployment away that it selects, and
hides the deployment from the patch behind it. -/
theorem identity_lost_without_version : ∃ (set : ManifestSet) (patches : PatchSet)
    (patched : ManifestSet), ManifestSet.extendAll [] [webSource] = .ok set ∧
    renderPatches [webTemplate "" "\x7b\x7d", webTemplate "apps/v1" "\x7b\x7d"]
      ⟨"t-1", "", 1, []⟩ = .ok patches ∧
    applyPatches set patches = .ok patched ∧
    patched.map Document.identity ≠ set.map Document.identity ∧
    ∃ p ∈ patches, patched.map p.target.selects ≠ set.map p.target.selects := by
  refine ⟨[web "apps/v1"], [webPatch "patch-0" "" [], webPatch "patch-1" "apps/v1" []],
    [web ""], ?_⟩
  decide +kernel

end

end ClusterTuning
