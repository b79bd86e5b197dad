import ClusterTuning.ExperimentTemplate
import ClusterTuning.Proofs.Experiment
import Mathlib.Data.List.Nodup

/-!
# ClusterTuning.Proofs.ExperimentTemplate

**Projecting an experiment to its template, and laying a template over an experiment.**

Stored entries are found by name, so an overlay is told entry by entry: under the name of a stored
entry lies the change of what was there before, or of a fresh entry (`find?_foldl_overlayByName`).

## Main statements

* Project, then overlay: an entry that was not edited changes nothing, although the projection
  forgets bounds that do not count and all unknown fields (`overlay_ofExperiment`).
* Send, then receive: the projection of an experiment that was read arrives as it is
  (`reads_ofExperiment`).
* Overlay, then project: the projection has what was stored (`projection_keeps_stored_iff`). There
  is one exception. The type of a parameter is told by its values, and a stored range has none, so
  where the experiment has a choice it stays a choice.
-/

namespace ClusterTuning

/-! ### Overlaying by name -/

section OverlayByName

variable {α σ : Type} {nameOf : α → String}

/-- Under the name that was overlaid lies the change of the first entry, or of a fresh one. Under
all other names lies what was there. -/
theorem find?_overlayByName {name : String} {fresh : α} {change : α → α}
    (hchange : ∀ a, nameOf (change a) = nameOf a) (hfresh : nameOf fresh = name) (other : String)
    (entries : List α) :
    (overlayByName nameOf name fresh change entries).find? (fun a => nameOf a = other) =
      if name = other then some (change ((entries.find? fun a => nameOf a = name).getD fresh))
      else entries.find? fun a => nameOf a = other := by
  induction entries with
  | nil =>
      by_cases hother : name = other <;> simp [overlayByName, hchange, hfresh, hother]
  | cons a rest ih =>
      rw [overlayByName]
      by_cases ha : nameOf a = name
      · by_cases hother : name = other <;> simp [hchange, ha, hother]
      · by_cases hother : name = other
        · have hsame : ¬ nameOf a = other := hother ▸ ha
          rw [if_neg ha, List.find?_cons_of_neg (by simpa using hsame), ih, if_pos hother,
            if_pos hother, List.find?_cons_of_neg (by simpa using ha)]
        · rw [if_neg ha, if_neg hother]
          rw [if_neg hother] at ih
          by_cases haother : nameOf a = other
          · simp [haother]
          · simp [haother, ih]

/-- Overlaying an entry with what it is changes nothing. -/
theorem overlayByName_eq_self {name : String} {fresh a : α} {change : α → α} {entries : List α}
    (hfind : entries.find? (fun a => nameOf a = name) = some a) (hchange : change a = a) :
    overlayByName nameOf name fresh change entries = entries := by
  induction entries with
  | nil => cases hfind
  | cons head rest ih =>
      rw [overlayByName]
      by_cases hhead : nameOf head = name
      · have hsame : head = a := by simpa [hhead] using hfind
        rw [if_pos hhead, hsame, hchange]
      · have hrest : rest.find? (fun a => nameOf a = name) = some a := by
          simpa [hhead] using hfind
        rw [if_neg hhead, ih hrest]

variable {keyOf : σ → String} {fresh : σ → α} {change : σ → α → α}

/-- An entry whose name is not stored is found as before. -/
theorem find?_foldl_overlayByName_of_not_mem
    (hchange : ∀ s a, nameOf (change s a) = nameOf a) (hfresh : ∀ s, nameOf (fresh s) = keyOf s)
    {name : String} {stored : List σ} (hname : name ∉ stored.map keyOf) (entries : List α) :
    (stored.foldl (fun entries s => overlayByName nameOf (keyOf s) (fresh s) (change s) entries)
      entries).find? (fun a => nameOf a = name) = entries.find? fun a => nameOf a = name := by
  induction stored generalizing entries with
  | nil => rfl
  | cons s rest ih =>
      rw [List.map_cons, List.mem_cons, not_or] at hname
      rw [List.foldl_cons, ih hname.2, find?_overlayByName (hchange s) (hfresh s),
        if_neg (Ne.symm hname.1)]

/-- Of stored entries with different names, each one has changed the entry of its name. -/
theorem find?_foldl_overlayByName
    (hchange : ∀ s a, nameOf (change s a) = nameOf a) (hfresh : ∀ s, nameOf (fresh s) = keyOf s)
    {stored : List σ} (hnodup : (stored.map keyOf).Nodup) {s : σ} (hs : s ∈ stored)
    (entries : List α) :
    (stored.foldl (fun entries s => overlayByName nameOf (keyOf s) (fresh s) (change s) entries)
      entries).find? (fun a => nameOf a = keyOf s) =
        some (change s ((entries.find? fun a => nameOf a = keyOf s).getD (fresh s))) := by
  induction stored generalizing entries with
  | nil => cases hs
  | cons head rest ih =>
      obtain ⟨hhead, hrest⟩ := List.nodup_cons.mp hnodup
      rw [List.foldl_cons]
      rcases List.mem_cons.mp hs with rfl | hs
      · rw [find?_foldl_overlayByName_of_not_mem hchange hfresh hhead,
          find?_overlayByName (hchange s) (hfresh s), if_pos rfl]
      · have hne : keyOf head ≠ keyOf s := fun h => hhead (h ▸ List.mem_map_of_mem hs)
        rw [ih hrest hs, find?_overlayByName (hchange head) (hfresh head), if_neg hne]

/-- Nothing changes where every stored entry finds one that it leaves as it is. -/
theorem foldl_overlayByName_eq_self {stored : List σ} {entries : List α}
    (h : ∀ s ∈ stored, ∃ a, entries.find? (fun a => nameOf a = keyOf s) = some a ∧
      change s a = a) :
    stored.foldl (fun entries s => overlayByName nameOf (keyOf s) (fresh s) (change s) entries)
      entries = entries := by
  induction stored with
  | nil => rfl
  | cons s rest ih =>
      obtain ⟨a, hfind, hchange⟩ := h s List.mem_cons_self
      rw [List.foldl_cons, overlayByName_eq_self hfind hchange]
      exact ih fun s hs => h s (List.mem_cons_of_mem _ hs)

/-- Where names occur once, an entry is the one that its name finds. -/
theorem find?_eq_of_mem {entries : List α} (hnodup : (entries.map nameOf).Nodup) {a : α}
    (ha : a ∈ entries) : entries.find? (fun b => nameOf b = nameOf a) = some a := by
  induction entries with
  | nil => cases ha
  | cons head rest ih =>
      obtain ⟨hhead, hrest⟩ := List.nodup_cons.mp hnodup
      rcases List.mem_cons.mp ha with rfl | ha
      · simp
      · have hne : ¬ nameOf head = nameOf a := fun h => hhead (h ▸ List.mem_map_of_mem ha)
        simpa [hne] using ih hrest ha

end OverlayByName

/-! ### Projecting, then overlaying -/

namespace TemplateParameter

@[simp] theorem name_ofParameter (p : Parameter) : (ofParameter p).name = p.name := by
  unfold ofParameter
  split <;> rfl

@[simp] theorem baseline_ofParameter (p : Parameter) : (ofParameter p).baseline = p.baseline := by
  unfold ofParameter
  split <;> rfl

@[simp] theorem values_ofParameter (p : Parameter) : (ofParameter p).values = p.values := by
  unfold ofParameter
  split
  · rename_i hvalues
    exact (List.isEmpty_iff.mp hvalues).symm
  · rfl

/-- The projection states no bounds but those of the parameter. -/
theorem bounds_of_bounds_ofParameter {p : Parameter} {b : Bounds}
    (h : (ofParameter p).bounds = some b) : p.min = some b.min ∧ p.max = some b.max := by
  unfold ofParameter at h
  split at h
  · obtain ⟨⟨lo, hi⟩, hbounds, rfl⟩ := Option.map_eq_some_iff.mp h
    unfold Parameter.bounds at hbounds
    split at hbounds
    · rename_i hlo hhi
      cases hbounds
      exact ⟨hlo, hhi⟩
    · cases hbounds
  · cases h

/-- What a parameter states itself changes nothing about it. Bounds that do not count are not
stated, and what is not stated stays. -/
theorem overlay_ofParameter (p : Parameter) : (ofParameter p).overlay p = p := by
  cases hbounds : (ofParameter p).bounds with
  | none => simp [overlay, hbounds]
  | some b =>
      obtain ⟨hlo, hhi⟩ := bounds_of_bounds_ofParameter hbounds
      simp [overlay, hbounds, ← hlo, ← hhi]

end TemplateParameter

theorem TemplateMetric.overlay_ofMetric (m : Metric) : (ofMetric m).overlay m = m := by
  simp [overlay, ofMetric]

namespace ExperimentTemplate

/-- The projection of an experiment whose parameters have different names, and whose metrics do,
changes nothing about the experiment. -/
theorem overlay_ofExperiment {e : Experiment}
    (hparameters : (e.spec.parameters.map Parameter.name).Nodup)
    (hmetrics : (e.spec.metrics.map Metric.name).Nodup) : (ofExperiment e).overlay e = e := by
  have hp : overlayParameters (ofExperiment e).parameters e.spec.parameters =
      e.spec.parameters := by
    refine foldl_overlayByName_eq_self fun s hs => ?_
    obtain ⟨p, hp, rfl⟩ := List.mem_map.mp hs
    rw [TemplateParameter.name_ofParameter]
    exact ⟨p, find?_eq_of_mem hparameters hp, TemplateParameter.overlay_ofParameter p⟩
  have hm : overlayMetrics (ofExperiment e).metrics e.spec.metrics = e.spec.metrics := by
    refine foldl_overlayByName_eq_self fun s hs => ?_
    obtain ⟨m, hm, rfl⟩ := List.mem_map.mp hs
    exact ⟨m, find?_eq_of_mem hmetrics hm, TemplateMetric.overlay_ofMetric m⟩
  rw [overlay, hp, hm]

end ExperimentTemplate

/-! ### Templates that are sent and received -/

theorem Bounds.reads_encode {b : Bounds} (hmin : IntType.signed.holds b.min = true)
    (hmax : IntType.signed.holds b.max = true) : Decode.Reads decode encode b := by
  refine Decode.closedRecord_canonical (a := Bounds.mk b.min b.max) (Decode.read_field
    (Decode.read_field rfl ?_) ?_)
  · simpa using (Decode.reads_ofInt hmin).fits none
  · simpa using (Decode.reads_ofInt hmax).fits none

namespace TemplateParameter

/-- The parameter can be sent and received: its numbers fit, and its baseline is a value. -/
structure Sendable (s : TemplateParameter) : Prop where
  /-- The bounds fit. -/
  bounds : ∀ b, s.bounds = some b →
    IntType.signed.holds b.min = true ∧ IntType.signed.holds b.max = true
  /-- The baseline is something, in canonical form. -/
  baseline : ∀ v, s.baseline = some v → v.isNull = false ∧ v.IsCanonical

/-- A parameter that can be sent is received as it was sent. -/
theorem Sendable.reads_encode {s : TemplateParameter} (h : s.Sendable) :
    Decode.Reads decode encode s := by
  refine Decode.closedRecord_canonical
    (a := TemplateParameter.mk s.name s.type s.bounds s.baseline s.values)
    (Decode.read_field (Decode.read_field (Decode.read_field (Decode.read_field
      (Decode.read_field rfl ?_) ?_) ?_) ?_) ?_)
  · simpa using (Decode.reads_text s.name).fits none
  · have htype : Decode.Reads ParameterType.decode (fun t => .string t.name) s.type := by
      cases s.type <;> rfl
    simpa using htype.fits (some .int)
  · have hbounds : ∀ b, s.bounds = some b →
        b.encode.isNull = false ∧ Decode.Reads Bounds.decode Bounds.encode b := fun b hb =>
      ⟨rfl, Bounds.reads_encode (h.bounds b hb).1 (h.bounds b hb).2⟩
    simpa using Decode.fits_optional hbounds
  · have hbaseline : ∀ v, s.baseline = some v →
        (id v).isNull = false ∧ Decode.Reads Source.value id v := fun v hv =>
      ⟨(h.baseline v hv).1, Decode.reads_value (h.baseline v hv).2⟩
    simpa using Decode.fits_optional hbaseline
  · simpa using Decode.fits_nonEmptyList fun v (_ : v ∈ s.values) => Decode.reads_text v

theorem sendable_ofParameter {p : Parameter} (h : p.IsRead) : (ofParameter p).Sendable := by
  refine ⟨fun b hb => ?_, fun v hv => ?_⟩
  · obtain ⟨hmin, hmax⟩ := bounds_of_bounds_ofParameter hb
    exact ⟨h.min _ hmin, h.max _ hmax⟩
  · rw [baseline_ofParameter] at hv
    exact h.baseline v hv

end TemplateParameter

theorem TemplateMetric.reads_encode (m : TemplateMetric) : Decode.Reads decode encode m := by
  refine Decode.closedRecord_canonical (a := TemplateMetric.mk m.name m.minimize m.query)
    (Decode.read_field (Decode.read_field (Decode.read_field rfl ?_) ?_) ?_)
  · simpa using (Decode.reads_text m.name).fits none
  · have hflag : Decode.Reads Value.decodeFlag Value.bool m.minimize := rfl
    simpa using hflag.fits (some false)
  · have hquery : ∀ q, m.query = some q → (Value.string q).isNull = false ∧
        Decode.Reads Value.decodeText Value.string q := fun q _ => ⟨rfl, Decode.reads_text q⟩
    simpa using Decode.fits_optional hquery

namespace ExperimentTemplate

/-- A template is received as it was sent. -/
theorem reads_encode {t : ExperimentTemplate} (h : ∀ s ∈ t.parameters, s.Sendable) :
    Decode.Reads decode encode t := by
  refine Decode.closedRecord_canonical (a := ExperimentTemplate.mk t.parameters t.metrics)
    (Decode.read_field (Decode.read_field rfl ?_) ?_)
  · simpa using Decode.fits_list (fun s hs => (h s hs).reads_encode) (some [])
  · simpa using Decode.fits_list (fun m (_ : m ∈ t.metrics) => m.reads_encode) (some [])

/-- The projection of an experiment that was read is received as it was sent. -/
theorem reads_ofExperiment {e : Experiment} (h : ∀ p ∈ e.spec.parameters, p.IsRead) :
    Decode.Reads decode encode (ofExperiment e) := by
  refine reads_encode fun s hs => ?_
  obtain ⟨p, hp, rfl⟩ := List.mem_map.mp hs
  exact TemplateParameter.sendable_ofParameter (h p hp)

end ExperimentTemplate

/-! ### Overlaying, then projecting -/

namespace TemplateParameter

/-- An entry as a scan writes it for a range with both bounds or for a choice. -/
def WellFormed (s : TemplateParameter) : Prop :=
  match s.type with
  | .int => s.bounds.isSome = true ∧ s.values = []
  | .categorical => s.bounds = none ∧ s.values ≠ []

/-- An entry says what was stored. -/
structure Keeps (stored entry : TemplateParameter) : Prop where
  /-- It is about the same parameter. -/
  name : entry.name = stored.name
  /-- A range stays a range, and a choice a choice. -/
  type : entry.type = stored.type
  /-- The bounds are the same. -/
  bounds : entry.bounds = stored.bounds
  /-- The values are the same. -/
  values : entry.values = stored.values
  /-- A baseline that was stored is the same. -/
  baseline : ∀ v, stored.baseline = some v → entry.baseline = some v

/-- A baseline that was stored is in the projection. -/
theorem baseline_ofParameter_overlay {s : TemplateParameter} {v : Value}
    (h : s.baseline = some v) (p : Parameter) :
    (ofParameter (s.overlay p)).baseline = some v := by
  simp [overlay, h]

/-- The entry of a parameter with values is that of a choice. -/
theorem ofParameter_of_values_ne {p : Parameter} (h : p.values ≠ []) : ofParameter p =
    { name := p.name, type := .categorical, baseline := p.baseline, values := p.values } := by
  rw [ofParameter, if_neg (by simpa using h)]

/-- A stored range leaves a choice what it is. -/
theorem ofParameter_overlay_of_range {s : TemplateParameter} {p : Parameter} (hs : s.values = [])
    (hp : p.values ≠ []) : ofParameter (s.overlay p) =
      { name := p.name, type := .categorical, baseline := (s.overlay p).baseline,
        values := p.values } := by
  have hvalues : (s.overlay p).values = p.values := by simp [overlay, hs]
  rw [ofParameter_of_values_ne (hvalues ▸ hp), hvalues]
  rfl

/-- The projection has what was stored, unless a range was stored for what is a choice. -/
theorem keeps_overlay_iff {s : TemplateParameter} (hs : s.WellFormed) {p : Parameter}
    (hname : p.name = s.name) :
    Keeps s (ofParameter (s.overlay p)) ↔ (s.type = .int → p.values = []) := by
  have hbaseline := fun v (hv : s.baseline = some v) => baseline_ofParameter_overlay hv p
  unfold WellFormed at hs
  split at hs
  · rename_i htype
    obtain ⟨hbounds, hvalues⟩ := hs
    obtain ⟨b, hb⟩ := Option.isSome_iff_exists.mp hbounds
    constructor
    · intro hkeeps _
      -- values that stay beside the range make the entry a choice
      by_contra hp
      have htype' := hkeeps.type
      rw [ofParameter_overlay_of_range hvalues hp, htype] at htype'
      cases htype'
    · intro hp
      have hrange : ofParameter (s.overlay p) =
          { name := p.name, type := .int, bounds := some b,
            baseline := (s.overlay p).baseline } := by
        simp [ofParameter, overlay, Parameter.bounds, hvalues, hp htype, hb]
      refine ⟨?_, ?_, ?_, ?_, hbaseline⟩
      · rw [hrange, hname]
      · rw [hrange, htype]
      · rw [hrange, hb]
      · rw [hrange, hvalues]
  · rename_i htype
    obtain ⟨hbounds, hvalues⟩ := hs
    have hchoice : (s.overlay p).values = s.values := by simp [overlay, hvalues]
    have hentry : ofParameter (s.overlay p) = _ := ofParameter_of_values_ne (hchoice ▸ hvalues)
    refine iff_of_true ⟨?_, ?_, ?_, ?_, hbaseline⟩ (by simp [htype])
    · rw [hentry, ← hname]
      rfl
    · rw [hentry, htype]
    · rw [hentry, hbounds]
    · rw [hentry, hchoice]

end TemplateParameter

/-- A query that was stored is in the projection. -/
theorem TemplateMetric.query_ofMetric_overlay {s : TemplateMetric} {q : String}
    (h : s.query = some q) (m : Metric) : (ofMetric (s.overlay m)).query = some q := by
  simp [ofMetric, overlay, h]

namespace ExperimentTemplate

/-- The parameter of the given name. -/
def parameter? (name : String) (t : ExperimentTemplate) : Option TemplateParameter :=
  t.parameters.find? fun p => p.name = name

/-- The metric of the given name. -/
def metric? (name : String) (t : ExperimentTemplate) : Option TemplateMetric :=
  t.metrics.find? fun m => m.name = name

/-- Under the name of a stored parameter lies the projection of what it was laid over. -/
theorem parameter?_ofExperiment_overlay {t : ExperimentTemplate}
    (hnodup : (t.parameters.map TemplateParameter.name).Nodup) {s : TemplateParameter}
    (hs : s ∈ t.parameters) (e : Experiment) :
    (ofExperiment (t.overlay e)).parameter? s.name =
      some (.ofParameter (s.overlay ((e.parameter? s.name).getD { name := s.name }))) := by
  have hfind : (t.overlay e).parameter? s.name =
      some (s.overlay ((e.parameter? s.name).getD { name := s.name })) :=
    @find?_foldl_overlayByName _ _ Parameter.name TemplateParameter.name _ TemplateParameter.overlay
      (fun _ _ => rfl) (fun _ => rfl) _ hnodup s hs e.spec.parameters
  have hnames : ((fun entry : TemplateParameter => decide (entry.name = s.name)) ∘
      TemplateParameter.ofParameter) = fun p : Parameter => decide (p.name = s.name) := by
    funext p
    simp
  rw [parameter?, ofExperiment, List.find?_map, hnames]
  exact congrArg (Option.map TemplateParameter.ofParameter) hfind

/-- The projection of an overlaid experiment has every stored metric, laid over the one of its name
or over a metric with nothing but the name. -/
theorem metric?_ofExperiment_overlay {t : ExperimentTemplate}
    (hnodup : (t.metrics.map TemplateMetric.name).Nodup) {s : TemplateMetric}
    (hs : s ∈ t.metrics) (e : Experiment) :
    (ofExperiment (t.overlay e)).metric? s.name =
      some (.ofMetric (s.overlay
        ((e.spec.metrics.find? fun m => m.name = s.name).getD { name := s.name }))) := by
  have hfind : (t.overlay e).spec.metrics.find? (fun m => m.name = s.name) =
      some (s.overlay
        ((e.spec.metrics.find? fun m => m.name = s.name).getD { name := s.name })) :=
    @find?_foldl_overlayByName _ _ Metric.name TemplateMetric.name _ TemplateMetric.overlay
      (fun _ _ => rfl) (fun _ => rfl) _ hnodup s hs e.spec.metrics
  rw [metric?, ofExperiment, List.find?_map]
  exact congrArg (Option.map TemplateMetric.ofMetric) hfind

/-- After a template was laid over an experiment, the projection has an entry for everything that
was stored, with the baseline or the query that was stored. A metric has the direction that was
stored, and a parameter the type, the bounds and the values, unless a range was stored for what the
experiment has a choice for: there the choice stays and the range is lost.

The experiment may have any parameters and metrics, also several of one name. -/
theorem projection_keeps_stored_iff {t : ExperimentTemplate}
    (hparameters : (t.parameters.map TemplateParameter.name).Nodup)
    (hmetrics : (t.metrics.map TemplateMetric.name).Nodup)
    (hformed : ∀ s ∈ t.parameters, s.WellFormed) (e : Experiment) :
    (∀ s ∈ t.parameters, ∃ entry, (ofExperiment (t.overlay e)).parameter? s.name = some entry ∧
        entry.name = s.name ∧ (∀ v, s.baseline = some v → entry.baseline = some v) ∧
        (s.Keeps entry ↔
          (s.type = .int → ∀ p, e.parameter? s.name = some p → p.values = [])) ∧
        ∀ p, e.parameter? s.name = some p → s.type = .int → p.values ≠ [] →
          entry.type = .categorical ∧ entry.bounds = none ∧ entry.values = p.values) ∧
      ∀ s ∈ t.metrics, ∃ entry, (ofExperiment (t.overlay e)).metric? s.name = some entry ∧
        entry.name = s.name ∧ entry.minimize = s.minimize ∧
        ∀ q, s.query = some q → entry.query = some q := by
  constructor
  · intro s hs
    have hs' := hformed s hs
    refine ⟨_, parameter?_ofExperiment_overlay hparameters hs e, ?_⟩
    cases hfresh : e.parameter? s.name with
    | none =>
        have hkeeps : s.Keeps (.ofParameter (s.overlay { name := s.name })) :=
          (TemplateParameter.keeps_overlay_iff hs' rfl).mpr fun _ => rfl
        exact ⟨hkeeps.name, hkeeps.baseline, iff_of_true hkeeps nofun, nofun⟩
    | some p =>
        have hname : p.name = s.name := by simpa using List.find?_some hfresh
        rw [Option.getD_some]
        refine ⟨by simp [TemplateParameter.overlay, hname], ?_, ?_, ?_⟩
        · exact fun v hv => TemplateParameter.baseline_ofParameter_overlay hv p
        · simpa using TemplateParameter.keeps_overlay_iff hs' hname
        · rintro p' hp' htype hvalues
          cases hp'
          unfold TemplateParameter.WellFormed at hs'
          rw [htype] at hs'
          rw [TemplateParameter.ofParameter_overlay_of_range hs'.2 hvalues]
          exact ⟨rfl, rfl, rfl⟩
  · intro s hs
    refine ⟨_, metric?_ofExperiment_overlay hmetrics hs e, ?_⟩
    cases hfresh : e.spec.metrics.find? fun m => m.name = s.name with
    | none => exact ⟨rfl, rfl, fun q hq => TemplateMetric.query_ofMetric_overlay hq _⟩
    | some m =>
        have hname : m.name = s.name := by simpa using List.find?_some hfresh
        exact ⟨hname, rfl, fun q hq => TemplateMetric.query_ofMetric_overlay hq _⟩

/-- A choice that was stored for a range is kept, and so is a range for which the experiment has no
parameter. -/
theorem projection_keeps_stored_cpu :
    let t : ExperimentTemplate := {
      parameters := [{ name := "cpu", type := .categorical, values := ["1", "2"] },
        { name := "memory", bounds := some ⟨1, 4⟩ }]
      metrics := [{ name := "cost", minimize := true }] }
    let e : Experiment := {
      apiVersion := "v1", kind := "Experiment"
      spec := { parameters := [{ name := "cpu", min := some 1, max := some 2 }] } }
    ∀ s ∈ t.parameters, ∃ entry, (ofExperiment (t.overlay e)).parameter? s.name = some entry ∧
      s.Keeps entry := by
  intro t e s hs
  have hformed : ∀ s ∈ t.parameters, s.WellFormed := by
    intro s hs
    simp only [t, List.mem_cons, List.not_mem_nil, or_false] at hs
    rcases hs with rfl | rfl
    · exact ⟨rfl, by decide⟩
    · exact ⟨rfl, rfl⟩
  obtain ⟨entry, hentry, -, -, hkeeps, -⟩ :=
    (projection_keeps_stored_iff (by decide) (by decide) hformed e).1 s hs
  refine ⟨entry, hentry, hkeeps.mpr fun _ p hp => ?_⟩
  have hmem := List.mem_of_find?_eq_some hp
  rw [List.mem_singleton.mp hmem]

/-- A range that was stored for a choice is nowhere in the projection. -/
theorem range_lost_at_choice :
    let s : TemplateParameter := { name := "tier", bounds := some ⟨1, 4⟩ }
    let e : Experiment := {
      apiVersion := "v1", kind := "Experiment"
      spec := { parameters := [{ name := "tier", values := ["small", "large"] }] } }
    s.WellFormed ∧ ∀ entry ∈ (ofExperiment (overlay { parameters := [s] } e)).parameters,
      ¬ s.Keeps entry := by
  intro s e
  refine ⟨⟨rfl, rfl⟩, fun entry hentry hkeeps => ?_⟩
  have htype : entry.type = .categorical := by
    rw [List.mem_singleton.mp hentry]
    rfl
  rw [hkeeps.type] at htype
  cases htype

end ExperimentTemplate

end ClusterTuning
