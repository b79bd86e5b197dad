import ClusterTuning.Proofs.Merge.Repetition
import ClusterTuning.Proofs.Overlay.Address

/-!
# ClusterTuning.Proofs.Overlay.Run

**Patches laid over documents are runs over each document alone.**

Patches are applied one after the other to all documents, and which documents a patch is
merged into depends on what the patches before it have done. As a patch changes a document by
what the document holds and nothing else, the two loops can be exchanged (`applyPatches_eq_ok_iff`).

A run only moves the address of a document downwards, in the order of versions. A patch that
selects the final document therefore selected the document when its turn came, and has left
it at the final address (`wanted_of_selects_run`). From the first such patch on the address
rests, so exactly these patches were merged, and they are the ones that a second run merges.

## Main statements

* `applyPatches_eq_ok_iff`: applying patches is a run over each document.
* `Document.run_run`: a second run of patches that name no item twice changes nothing.
-/

namespace ClusterTuning

/-! ### One patch and one document -/

/-- What the body of a patch reads as. -/
def RenderedPatch.content (p : RenderedPatch) : Value :=
  (Json.read? p.body).getD .null

/-- A patch laid over one document. -/
def RenderedPatch.onto (p : RenderedPatch) (doc : Document) : Document :=
  if p.target.selects doc then doc.patched p.content else doc

/-- Patches laid over one document in order. -/
def Document.run (doc : Document) (patches : PatchSet) : Document :=
  patches.foldl (fun doc p => p.onto doc) doc

@[simp] theorem Document.run_nil (doc : Document) : doc.run [] = doc := rfl

@[simp] theorem Document.run_cons (doc : Document) (p : RenderedPatch) (rest : PatchSet) :
    doc.run (p :: rest) = (p.onto doc).run rest := rfl

theorem Document.run_append (doc : Document) (before after : PatchSet) :
    doc.run (before ++ after) = (doc.run before).run after :=
  List.foldl_append

theorem RenderedPatch.onto_of_selects {p : RenderedPatch} {doc : Document}
    (h : p.target.selects doc = true) : p.onto doc = doc.patched p.content :=
  if_pos h

theorem RenderedPatch.onto_of_not_selects {p : RenderedPatch} {doc : Document}
    (h : p.target.selects doc = false) : p.onto doc = doc :=
  if_neg (by simp [h])

/-- A document that no patch selects stays as it is. -/
theorem Document.run_of_not_selects {patches : PatchSet} {doc : Document}
    (h : ∀ p ∈ patches, p.target.selects doc = false) : doc.run patches = doc := by
  induction patches with
  | nil => rfl
  | cons p rest ih =>
      rw [run_cons, RenderedPatch.onto_of_not_selects (h p List.mem_cons_self)]
      exact ih fun q hq => h q (List.mem_cons_of_mem _ hq)

theorem RenderedPatch.content_of_read? {p : RenderedPatch} {v : Value}
    (h : Json.read? p.body = some v) : p.content = v := by
  rw [content, h, Option.getD_some]

theorem applyPatch_of_read? {set : ManifestSet} {p : RenderedPatch}
    (h : Json.read? p.body = some p.content) : applyPatch set p = .ok (set.map p.onto) := by
  rw [applyPatch, h]
  rfl

theorem read?_of_applyPatch {set patched : ManifestSet} {p : RenderedPatch}
    (h : applyPatch set p = .ok patched) : Json.read? p.body = some p.content := by
  rw [applyPatch] at h
  split at h
  · cases h
  · rename_i v hread
    rw [RenderedPatch.content_of_read? hread, hread]

/-- Patches whose bodies can be read are runs over each document alone. -/
theorem applyPatches_eq_ok_iff {set patched : ManifestSet} {patches : PatchSet} :
    applyPatches set patches = .ok patched ↔
      (∀ p ∈ patches, Json.read? p.body = some p.content) ∧
        patched = set.map fun doc => doc.run patches := by
  induction patches generalizing set with
  | nil => simp [applyPatches, eq_comm]
  | cons p rest ih =>
      rw [applyPatches]
      by_cases hread : Json.read? p.body = some p.content
      · rw [applyPatch_of_read? hread]
        simp only [ih, List.map_map, List.forall_mem_cons, hread, true_and]
        rfl
      · constructor
        · intro h
          split at h
          · cases h
          · rename_i hp
            exact absurd (read?_of_applyPatch hp) hread
        · intro h
          exact absurd (h.1 p List.mem_cons_self) hread

/-! ### Addresses only lose parts of their version -/

/-- The same address, up to parts of the version that it has lost. -/
structure Address.Within (a b : Address) : Prop where
  /-- What is left of the version accepts the other. -/
  version : a.version.Accepts b.version
  /-- The kind is the same. -/
  kind : a.kind = b.kind
  /-- The name is the same. -/
  name : a.name = b.name
  /-- The namespace is the same. -/
  «namespace» : a.namespace = b.namespace

namespace Address

theorem Within.refl (a : Address) : a.Within a :=
  ⟨ApiVersion.Accepts.refl _, rfl, rfl, rfl⟩

theorem Within.trans {a b c : Address} (h : a.Within b) (h' : b.Within c) : a.Within c :=
  ⟨h.version.trans h'.version, h.kind.trans h'.kind, h.name.trans h'.name,
    h.namespace.trans h'.namespace⟩

theorem Within.antisymm {a b : Address} (h : a.Within b) (h' : b.version.Accepts a.version) :
    a = b := by
  obtain ⟨version, kind, name, ns⟩ := a
  obtain ⟨hversion, rfl, rfl, rfl⟩ := h
  rw [mk.injEq]
  exact ⟨hversion.antisymm h', rfl, rfl, rfl⟩

end Address

/-- A selector that selects a document selected it before it lost parts of its version. -/
theorem Selector.selects_of_within {s : Selector} {a b : Document}
    (h : a.address.Within b.address) (ha : s.selects a = true) : s.selects b = true := by
  obtain ⟨hversion, hkind, hname, hnamespace⟩ := h
  simp only [Document.address] at hversion hkind hname hnamespace
  rw [selects_iff, hkind, hname, hnamespace] at ha
  exact selects_iff.mpr ⟨ha.1.trans hversion, ha.2⟩

/-- The patches that select a document. -/
def PatchSet.selecting (doc : Document) (patches : PatchSet) : PatchSet :=
  patches.filter fun p => p.target.selects doc

namespace PatchSet

theorem mem_selecting_iff {doc : Document} {patches : PatchSet} {p : RenderedPatch} :
    p ∈ selecting doc patches ↔ p ∈ patches ∧ p.target.selects doc = true :=
  List.mem_filter

theorem selecting_cons_of_selects {doc : Document} {p : RenderedPatch} {rest : PatchSet}
    (h : p.target.selects doc = true) : selecting doc (p :: rest) = p :: selecting doc rest :=
  List.filter_cons_of_pos h

theorem selecting_cons_of_not_selects {doc : Document} {p : RenderedPatch} {rest : PatchSet}
    (h : p.target.selects doc = false) : selecting doc (p :: rest) = selecting doc rest :=
  List.filter_cons_of_neg (by simp [h])

theorem selecting_eq_of_address_eq {a b : Document} (h : a.address = b.address)
    (patches : PatchSet) : selecting a patches = selecting b patches :=
  List.filter_congr fun _ _ => Selector.selects_eq_of_address_eq h

/-- Either no patch selects the document, or there is a first one that does. -/
theorem selecting_eq_nil_or (doc : Document) (patches : PatchSet) :
    selecting doc patches = [] ∨ ∃ before p after, patches = before ++ p :: after ∧
      p.target.selects doc = true ∧ selecting doc patches = p :: selecting doc after := by
  induction patches with
  | nil => exact Or.inl rfl
  | cons p rest ih =>
      cases hp : p.target.selects doc with
      | true => exact Or.inr ⟨[], p, rest, rfl, hp, selecting_cons_of_selects hp⟩
      | false =>
          rw [selecting_cons_of_not_selects hp]
          rcases ih with hnil | ⟨before, q, after, rfl, hq, hselecting⟩
          · exact Or.inl hnil
          · exact Or.inr ⟨p :: before, q, after, rfl, hq, hselecting⟩

end PatchSet

/-! ### The version that a patch names -/

/-- The version of the API that a patch names. -/
def RenderedPatch.apiVersion (p : RenderedPatch) : String :=
  Document.textAt "apiVersion" (.object p.fields)

/-! ### Runs of rendered patches -/

/-- The patch was rendered for a target, and its content bears the identity of that target. -/
def RenderedPatch.Legible (p : RenderedPatch) : Prop :=
  ∃ t, p.RenderedFor t ∧ p.content.IsCanonical ∧ t.Identifies p.content

/-- The patches of a rendered set that were applied are legible. -/
theorem legible_of_renderPatches {templates : List PatchTemplate} {trial : Trial}
    {patches : PatchSet} (h : renderPatches templates trial = .ok patches)
    (hread : ∀ p ∈ patches, Json.read? p.body = some p.content) : ∀ p ∈ patches, p.Legible := by
  intro p hp
  obtain ⟨t, ht⟩ := rendered_of_renderPatches h p hp
  exact ⟨t, ht, ht.content (hread p hp)⟩

namespace RenderedPatch

variable {p : RenderedPatch} {doc : Document}

theorem Legible.isCanonical_content (hp : p.Legible) :
    p.content.IsCanonical ∧ p.content.isNull = false := by
  obtain ⟨t, _, hcanonical, hcontent⟩ := hp
  obtain ⟨fields, hfields⟩ := Value.exists_fields_of_get? hcontent.kind
  exact ⟨hcanonical, by rw [hfields]; rfl⟩

/-- A document stays as documents are read, whether the patch selects it or not. -/
theorem Legible.isRead_onto (hp : p.Legible) (hdoc : doc.IsRead) : (p.onto doc).IsRead := by
  obtain ⟨t, ht, hcanonical, hcontent⟩ := hp
  cases hselects : p.target.selects doc with
  | false =>
      rw [onto_of_not_selects hselects]
      exact hdoc
  | true =>
      rw [onto_of_selects hselects]
      exact (Document.address_patched hdoc ht hcanonical hcontent hselects).1

theorem Legible.address_onto (hp : p.Legible) (hdoc : doc.IsRead)
    (hselects : p.target.selects doc = true) :
    (p.onto doc).address = { doc.address with version := p.target.wanted } := by
  obtain ⟨t, ht, hcanonical, hcontent⟩ := hp
  rw [onto_of_selects hselects]
  exact (Document.address_patched hdoc ht hcanonical hcontent hselects).2

theorem Legible.address_onto_of_wanted (hp : p.Legible) (hdoc : doc.IsRead)
    (hselects : p.target.selects doc = true) (hwanted : p.target.wanted = doc.groupVersion) :
    (p.onto doc).address = doc.address := by
  rw [hp.address_onto hdoc hselects, hwanted]
  rfl

theorem Legible.apiVersion_onto (hp : p.Legible) (hdoc : doc.IsRead)
    (hselects : p.target.selects doc = true) : (p.onto doc).apiVersion = p.apiVersion := by
  obtain ⟨t, ht, hcanonical, hcontent⟩ := hp
  rw [onto_of_selects hselects, Document.apiVersion_patched hdoc hcanonical hcontent,
    RenderedPatch.apiVersion, Document.textAt, ht.identifies.apiVersion]
  rfl

/-- A patch moves a document within its address at most: parts of the version may be lost, and
nothing is put in their place. -/
theorem Legible.within_onto (hp : p.Legible) (hdoc : doc.IsRead) :
    (p.onto doc).address.Within doc.address := by
  cases hselects : p.target.selects doc with
  | false =>
      rw [onto_of_not_selects hselects]
      exact Address.Within.refl _
  | true =>
      rw [hp.address_onto hdoc hselects]
      exact ⟨(Selector.selects_iff.mp hselects).1, rfl, rfl, rfl⟩

end RenderedPatch

namespace Document

variable {doc : Document} {patches : PatchSet}

theorem isRead_run (hdoc : doc.IsRead) (hpatches : ∀ p ∈ patches, p.Legible) :
    (doc.run patches).IsRead := by
  induction patches generalizing doc with
  | nil => exact hdoc
  | cons p rest ih =>
      exact ih ((hpatches p List.mem_cons_self).isRead_onto hdoc) fun q hq =>
        hpatches q (List.mem_cons_of_mem _ hq)

/-- A run moves the address downwards. -/
theorem within_run (hdoc : doc.IsRead) (hpatches : ∀ p ∈ patches, p.Legible) :
    (doc.run patches).address.Within doc.address := by
  induction patches generalizing doc with
  | nil => exact Address.Within.refl _
  | cons p rest ih =>
      have hp := hpatches p List.mem_cons_self
      have hrest := ih (hp.isRead_onto hdoc) fun q hq => hpatches q (List.mem_cons_of_mem _ hq)
      exact hrest.trans (hp.within_onto hdoc)

/-- A patch that selects the final document has left the document at the final address. -/
theorem wanted_of_selects_run (hdoc : doc.IsRead) (hpatches : ∀ p ∈ patches, p.Legible)
    {p : RenderedPatch} (hp : p ∈ patches) (hselects : p.target.selects (doc.run patches) = true) :
    p.target.wanted = (doc.run patches).groupVersion := by
  obtain ⟨before, after, rfl⟩ := List.append_of_mem hp
  rw [run_append, run_cons] at hselects ⊢
  have hlegible := hpatches p hp
  have hmid : (doc.run before).IsRead := isRead_run hdoc fun q hq =>
    hpatches q (List.mem_append_left _ hq)
  have hnext := hlegible.isRead_onto hmid
  have hafter := within_run hnext fun q hq =>
    hpatches q (List.mem_append_right _ (List.mem_cons_of_mem _ hq))
  -- the patch was merged at its turn, and versions have only gone down since
  have hturn := Selector.selects_of_within (hafter.trans (hlegible.within_onto hmid)) hselects
  have hdown := hafter.version
  rw [hlegible.address_onto hmid hturn] at hdown
  exact (Selector.selects_iff.mp hselects).1.antisymm hdown

theorem rests_of_address_eq {a b : Document} {p : RenderedPatch} {rest : PatchSet}
    (h : a.address = b.address)
    (hrests : ∀ q ∈ p :: rest, q.target.selects b = true → q.target.wanted = b.groupVersion) :
    ∀ q ∈ rest, q.target.selects a = true → q.target.wanted = a.groupVersion := by
  intro q hq hselects
  rw [Selector.selects_eq_of_address_eq h] at hselects
  exact (hrests q (List.mem_cons_of_mem _ hq) hselects).trans (congrArg Address.version h).symm

/-- A document whose address rests is merged with the patches that select it. -/
theorem run_of_wanted (hdoc : doc.IsRead) (hpatches : ∀ p ∈ patches, p.Legible)
    (hrests : ∀ p ∈ patches, p.target.selects doc = true → p.target.wanted = doc.groupVersion) :
    (doc.run patches).address = doc.address ∧ doc.run patches =
      ⟨doc.kind, ((PatchSet.selecting doc patches).map
        RenderedPatch.content).foldl Value.mergePatch doc.value⟩ := by
  induction patches generalizing doc with
  | nil => exact ⟨rfl, rfl⟩
  | cons p rest ih =>
      have hp := hpatches p List.mem_cons_self
      have hrest : ∀ q ∈ rest, q.Legible := fun q hq => hpatches q (List.mem_cons_of_mem _ hq)
      rw [run_cons]
      cases hselects : p.target.selects doc with
      | false =>
          rw [RenderedPatch.onto_of_not_selects hselects,
            PatchSet.selecting_cons_of_not_selects hselects]
          exact ih hdoc hrest fun q hq => hrests q (List.mem_cons_of_mem _ hq)
      | true =>
          -- the address rests, so the patches that select the document stay the same ones
          have haddress := hp.address_onto_of_wanted hdoc hselects
            (hrests p List.mem_cons_self hselects)
          obtain ⟨hrun, hmerged⟩ := ih (hp.isRead_onto hdoc) hrest
            (rests_of_address_eq haddress hrests)
          refine ⟨hrun.trans haddress, ?_⟩
          rw [hmerged, PatchSet.selecting_eq_of_address_eq haddress,
            PatchSet.selecting_cons_of_selects hselects, RenderedPatch.onto_of_selects hselects]
          rfl

/-- A document whose address rests ends with the version that the last patch selecting it
names. -/
theorem apiVersion_run_of_wanted (hdoc : doc.IsRead) (hpatches : ∀ p ∈ patches, p.Legible)
    (hrests : ∀ p ∈ patches, p.target.selects doc = true → p.target.wanted = doc.groupVersion) :
    (doc.run patches).apiVersion =
      ((PatchSet.selecting doc patches).getLast?.map RenderedPatch.apiVersion).getD
        doc.apiVersion := by
  induction patches generalizing doc with
  | nil => rfl
  | cons p rest ih =>
      have hp := hpatches p List.mem_cons_self
      have hrest : ∀ q ∈ rest, q.Legible := fun q hq => hpatches q (List.mem_cons_of_mem _ hq)
      rw [run_cons]
      cases hselects : p.target.selects doc with
      | false =>
          rw [RenderedPatch.onto_of_not_selects hselects,
            PatchSet.selecting_cons_of_not_selects hselects]
          exact ih hdoc hrest fun q hq => hrests q (List.mem_cons_of_mem _ hq)
      | true =>
          have haddress := hp.address_onto_of_wanted hdoc hselects
            (hrests p List.mem_cons_self hselects)
          rw [ih (hp.isRead_onto hdoc) hrest (rests_of_address_eq haddress hrests),
            PatchSet.selecting_eq_of_address_eq haddress,
            PatchSet.selecting_cons_of_selects hselects, hp.apiVersion_onto hdoc hselects,
            List.getLast?_cons]
          cases (PatchSet.selecting doc rest).getLast? <;> rfl

/-- Whatever led to the final document, it is what the patches that select it make of some
canonical value. -/
theorem exists_value_run (hdoc : doc.IsRead) (hpatches : ∀ p ∈ patches, p.Legible) :
    ∃ v : Value, v.IsCanonical ∧ (doc.run patches).value =
      ((PatchSet.selecting (doc.run patches) patches).map
        RenderedPatch.content).foldl Value.mergePatch v := by
  -- what was merged before the first patch that selects the final document does not matter
  rcases PatchSet.selecting_eq_nil_or (doc.run patches) patches with
    hnone | ⟨before, p, after, hsplit, hselects, hselecting⟩
  · exact ⟨_, (isRead_run hdoc hpatches).isCanonical, by rw [hnone]; rfl⟩
  · have hp := hpatches p (hsplit ▸ List.mem_append_right _ List.mem_cons_self)
    have hmem : ∀ q ∈ after, q ∈ patches := fun q hq =>
      hsplit ▸ List.mem_append_right _ (List.mem_cons_of_mem _ hq)
    have hafter : ∀ q ∈ after, q.Legible := fun q hq => hpatches q (hmem q hq)
    have hmid : (doc.run before).IsRead := isRead_run hdoc fun q hq =>
      hpatches q (hsplit ▸ List.mem_append_left _ hq)
    have hnext := hp.isRead_onto hmid
    have hfinal : doc.run patches = (p.onto (doc.run before)).run after := by
      rw [hsplit, run_append, run_cons]
    have hwithin := within_run hnext hafter
    rw [← hfinal] at hwithin
    have hturn := Selector.selects_of_within (hwithin.trans (hp.within_onto hmid)) hselects
    -- `p` leaves the document at the final address, where it rests
    have haddress : (p.onto (doc.run before)).address = (doc.run patches).address := by
      refine (hwithin.antisymm ?_).symm
      rw [hp.address_onto hmid hturn]
      exact (Selector.selects_iff.mp hselects).1
    have hversion : (p.onto (doc.run before)).groupVersion = (doc.run patches).groupVersion :=
      congrArg Address.version haddress
    have hmerged := (run_of_wanted hnext hafter fun q hq hq' => by
      rw [hversion]
      rw [Selector.selects_eq_of_address_eq haddress] at hq'
      exact wanted_of_selects_run hdoc hpatches (hmem q hq) hq').2
    refine ⟨(doc.run before).value, hmid.isCanonical, ?_⟩
    rw [hselecting, List.map_cons, List.foldl_cons, ← PatchSet.selecting_eq_of_address_eq haddress,
      hfinal, hmerged, RenderedPatch.onto_of_selects hturn]
    rfl

/-- A second run of patches that name no item twice changes nothing. -/
theorem run_run (hdoc : doc.IsRead) (hpatches : ∀ p ∈ patches, p.Legible)
    (honce : ∀ p ∈ patches, p.content.namesOnce = true) :
    (doc.run patches).run patches = doc.run patches := by
  have hfinal := isRead_run hdoc hpatches
  obtain ⟨v, hv, hvalue⟩ := exists_value_run hdoc hpatches
  have hcontents : ∀ c ∈ (PatchSet.selecting (doc.run patches) patches).map RenderedPatch.content,
      (c.IsCanonical ∧ c.isNull = false) ∧ c.namesOnce = true := by
    intro c hc
    obtain ⟨p, hp, rfl⟩ := List.mem_map.mp hc
    have hmem := (PatchSet.mem_selecting_iff.mp hp).1
    exact ⟨(hpatches p hmem).isCanonical_content, honce p hmem⟩
  have hsettles := Value.settles_of_namesOnce (fun c hc => (hcontents c hc).1.1)
    fun c hc => (hcontents c hc).2
  have hagain := hsettles.foldl_mergePatch (fun c hc => (hcontents c hc).1.2) hv
  rw [← hvalue] at hagain
  rw [(run_of_wanted hfinal hpatches fun p hp => wanted_of_selects_run hdoc hpatches hp).2, hagain]

end Document

end ClusterTuning
