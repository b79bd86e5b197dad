import ClusterTuning.Proofs.Experiment.Levels

/-!
# ClusterTuning.Proofs.Experiment.RoundTrip

**An experiment that is read and written again loses nothing, with a template laid over it or
without.**

A template that was read keeps an experiment such that it can be read back
(`Experiment.Sound.overlay`). What it does to a written entry is told by `Edited`: the name and all
unknown fields stay, and no field is lost. The entries stay at their places (`Front`), and those of
the template alone come behind them.

## Main statement

`Experiment.roundTrip`: what is written for an experiment is read back as the experiment, and each
level of the value that it was read from survives. The same holds after a template was laid over it,
where the entries of the experiment come first and may be edited.
-/

namespace ClusterTuning

open Decode

/-! ### Templates that were read -/

theorem Bounds.holds_of_decode {v : Value} (hv : v.IsCanonical) {b : Bounds}
    (h : decode v = .ok b) :
    IntType.signed.holds b.min = true ∧ IntType.signed.holds b.max = true := by
  obtain ⟨content, hread, -⟩ := exists_content_of_closedRecord hv h
  obtain ⟨_, max, hmax, hmax', rfl⟩ := read_field_eq_done_iff.mp hread
  obtain ⟨_, min, hmin, hmin', rfl⟩ := read_field_eq_done_iff.mp hmax
  cases hmin
  exact ⟨holds_of_fits hmin', holds_of_fits hmax'⟩

/-- A parameter of a template that was read can be sent again. -/
theorem TemplateParameter.sendable_of_decode {v : Value} (hv : v.IsCanonical)
    {s : TemplateParameter} (h : decode v = .ok s) : s.Sendable := by
  obtain ⟨content, hread, hcontent⟩ := exists_content_of_closedRecord hv h
  obtain ⟨_, values, hvalues, -, rfl⟩ := read_field_eq_done_iff.mp hread
  obtain ⟨_, baseline, hbaseline, hbaseline', rfl⟩ := read_field_eq_done_iff.mp hvalues
  obtain ⟨_, bounds, hbounds, hbounds', rfl⟩ := read_field_eq_done_iff.mp hbaseline
  obtain ⟨_, type, htype, -, rfl⟩ := read_field_eq_done_iff.mp hbounds
  obtain ⟨_, name, hname, -, rfl⟩ := read_field_eq_done_iff.mp htype
  cases hname
  refine ⟨?_, ?_⟩
  · rintro b rfl
    obtain ⟨w, hw, -, hdecode⟩ := exists_of_fits_some hbounds'
    exact Bounds.holds_of_decode (hcontent _ w hw) hdecode
  · rintro x rfl
    obtain ⟨w, hw, hnull, hdecode⟩ := exists_of_fits_some hbaseline'
    cases hdecode
    exact ⟨hnull, hcontent _ x hw⟩

theorem ExperimentTemplate.sendable_of_decode {v : Value} (hv : v.IsCanonical)
    {t : ExperimentTemplate} (h : decode v = .ok t) : ∀ s ∈ t.parameters, s.Sendable := by
  obtain ⟨content, hread, hcontent⟩ := exists_content_of_closedRecord hv h
  obtain ⟨_, metrics, hmetrics, -, rfl⟩ := read_field_eq_done_iff.mp hread
  obtain ⟨_, parameters, hparameters, hparameters', rfl⟩ := read_field_eq_done_iff.mp hmetrics
  cases hparameters
  exact of_fits_list (hcontent "parameters") hparameters' TemplateParameter.sendable_of_decode

/-! ### Overlaying keeps experiments sound -/

section OverlayByName

variable {α σ : Type} {P : α → Prop} {nameOf : α → String}

/-- What holds of all entries holds of them after an entry was laid over, where the change keeps it
and the fresh entry has it. -/
theorem forall_mem_overlayByName {name : String} {fresh : α} {change : α → α} (hfresh : P fresh)
    (hchange : ∀ a, P a → P (change a)) {entries : List α} (h : ∀ a ∈ entries, P a) :
    ∀ a ∈ overlayByName nameOf name fresh change entries, P a := by
  induction entries with
  | nil =>
      intro a ha
      rw [List.mem_singleton.mp ha]
      exact hchange fresh hfresh
  | cons head rest ih =>
      obtain ⟨hhead, hrest⟩ := List.forall_mem_cons.mp h
      rw [overlayByName]
      split
      · exact List.forall_mem_cons.mpr ⟨hchange head hhead, hrest⟩
      · exact List.forall_mem_cons.mpr ⟨hhead, ih hrest⟩

theorem forall_mem_foldl_overlayByName {keyOf : σ → String} {fresh : σ → α}
    {change : σ → α → α} {stored : List σ} (hfresh : ∀ s, P (fresh s))
    (hchange : ∀ s ∈ stored, ∀ a, P a → P (change s a)) {entries : List α}
    (h : ∀ a ∈ entries, P a) :
    ∀ a ∈ stored.foldl (fun entries s =>
      overlayByName nameOf (keyOf s) (fresh s) (change s) entries) entries, P a := by
  induction stored generalizing entries with
  | nil => exact h
  | cons s rest ih =>
      obtain ⟨hs, hrest⟩ := List.forall_mem_cons.mp hchange
      exact ih hrest (forall_mem_overlayByName (hfresh s) hs h)

end OverlayByName

/-- A parameter can be read back with what is stored laid over it, if that could be sent. -/
theorem Parameter.Sound.overlay {p : Parameter} (h : p.Sound) {s : TemplateParameter}
    (hs : s.Sendable) : (s.overlay p).Sound := by
  refine ⟨⟨?_, ?_, ?_⟩, h.other⟩
  · intro n hn
    cases hbounds : s.bounds with
    | none => exact h.isRead.min n (by simpa [TemplateParameter.overlay, hbounds] using hn)
    | some b =>
        have hmin : b.min = n := by simpa [TemplateParameter.overlay, hbounds] using hn
        exact hmin ▸ (hs.bounds b hbounds).1
  · intro n hn
    cases hbounds : s.bounds with
    | none => exact h.isRead.max n (by simpa [TemplateParameter.overlay, hbounds] using hn)
    | some b =>
        have hmax : b.max = n := by simpa [TemplateParameter.overlay, hbounds] using hn
        exact hmax ▸ (hs.bounds b hbounds).2
  · intro v hv
    cases hbaseline : s.baseline with
    | none => exact h.isRead.baseline v (by simpa [TemplateParameter.overlay, hbaseline] using hv)
    | some w =>
        have hw : w = v := by simpa [TemplateParameter.overlay, hbaseline] using hv
        exact hw ▸ hs.baseline w hbaseline

theorem Metric.Sound.overlay {m : Metric} (h : m.Sound) (s : TemplateMetric) :
    (s.overlay m).Sound := h

/-- An experiment can be read back with a template laid over it whose parameters could be sent. -/
theorem Experiment.Sound.overlay {e : Experiment} (h : e.Sound) {t : ExperimentTemplate}
    (ht : ∀ s ∈ t.parameters, s.Sendable) : (t.overlay e).Sound := by
  refine ⟨h.metadata, ⟨?_, ?_, h.spec.patches, h.spec.other⟩, h.other⟩
  · refine forall_mem_foldl_overlayByName (fun s => ?_) (fun s hs p hp => hp.overlay (ht s hs))
      h.spec.parameters
    -- a fresh entry has its name and nothing else
    exact ⟨⟨nofun, nofun, nofun⟩, Kept.nil _⟩
  · refine forall_mem_foldl_overlayByName (fun s => ?_) (fun s _ m hm => hm.overlay s)
      h.spec.metrics
    exact Kept.nil _

/-! ### What survives under a template -/

section Front

variable {α β γ σ : Type}

/-- Each item of one list has a counterpart at its place in another one. -/
def Front (R : α → β → Prop) (as : List α) (bs : List β) : Prop :=
  ∀ (i : Nat) (a : α), as[i]? = some a → ∃ b, bs[i]? = some b ∧ R a b

theorem Front.trans {R : α → β → Prop} {S : β → γ → Prop} {T : α → γ → Prop}
    (hT : ∀ a b c, R a b → S b c → T a c) {as : List α} {bs : List β} {cs : List γ}
    (hab : Front R as bs) (hbc : Front S bs cs) : Front T as cs := by
  intro i a ha
  obtain ⟨b, hb, hR⟩ := hab i a ha
  obtain ⟨c, hc, hS⟩ := hbc i b hb
  exact ⟨c, hc, hT a b c hR hS⟩

theorem Front.ne_nil {R : α → β → Prop} {as : List α} {bs : List β} (h : Front R as bs)
    (has : as ≠ []) : bs ≠ [] := by
  obtain ⟨a, rest, rfl⟩ := List.exists_cons_of_ne_nil has
  rintro rfl
  obtain ⟨b, hb, -⟩ := h 0 a rfl
  cases hb

theorem front_of_forall₂ {R : α → β → Prop} {as : List α} {bs : List β}
    (h : List.Forall₂ R as bs) : Front R as bs := by
  intro i a ha
  obtain ⟨hi, rfl⟩ := List.getElem?_eq_some_iff.mp ha
  have hi' : i < bs.length := h.length_eq ▸ hi
  exact ⟨bs[i], List.getElem?_eq_getElem hi', h.get hi hi'⟩

/-- Entries keep their places when one is laid over: a change stays in place and a fresh entry comes
last. -/
theorem front_overlayByName {R : α → α → Prop} (hrefl : ∀ a, R a a) {nameOf : α → String}
    {name : String} {fresh : α} {change : α → α} (hchange : ∀ a, R a (change a))
    (entries : List α) : Front R entries (overlayByName nameOf name fresh change entries) := by
  induction entries with
  | nil =>
      intro i a ha
      cases ha
  | cons head rest ih =>
      intro i a ha
      rw [overlayByName]
      split
      · -- the first entry of the name is changed where it stands
        cases i with
        | zero =>
            cases ha
            exact ⟨_, rfl, hchange head⟩
        | succ i => exact ⟨a, ha, hrefl a⟩
      · cases i with
        | zero =>
            cases ha
            exact ⟨_, rfl, hrefl head⟩
        | succ i => exact ih i a ha

theorem front_foldl_overlayByName {R : α → α → Prop} (hrefl : ∀ a, R a a)
    (htrans : ∀ a b c, R a b → R b c → R a c) {nameOf : α → String} {keyOf : σ → String}
    {fresh : σ → α} {change : σ → α → α} (hchange : ∀ s a, R a (change s a)) (stored : List σ)
    (entries : List α) : Front R entries (stored.foldl (fun entries s =>
      overlayByName nameOf (keyOf s) (fresh s) (change s) entries) entries) := by
  induction stored generalizing entries with
  | nil => exact fun i a ha => ⟨a, ha, hrefl a⟩
  | cons s rest ih => exact (front_overlayByName hrefl (hchange s) entries).trans htrans (ih _)

end Front

/-- A list that begins with the items of another one, the same in turn. -/
def SameFront (same : Value → Value → Prop) (before after : Value) : Prop :=
  ∃ items others, before = .array items ∧ after = .array others ∧ Front same items others

/-- A level of which a template may state all fields anew but the name. -/
def overlaid (level : List NamedField) : List NamedField :=
  level.map fun f => if f.name = "name" then f else { f with same := fun _ _ => True }

theorem names_overlaid (level : List NamedField) :
    (overlaid level).map NamedField.name = level.map NamedField.name := by
  rw [overlaid, List.map_map]
  refine List.map_congr_left ?_
  intro f _
  rw [Function.comp_apply]
  split <;> rfl

/-- How a written entry may change: the name and all unknown fields stay, and none is lost. -/
structure Edited (level : List NamedField) (before after : Value) : Prop where
  isObject : before.isObject = true → after.isObject = true
  name : after.get? "name" = before.get? "name"
  there : ∀ key, (before.get? key).isSome = true → (after.get? key).isSome = true
  unnamed : ∀ key, key ∉ level.map NamedField.name → after.get? key = before.get? key

namespace Edited

variable {level : List NamedField} {u v w : Value}

theorem refl (level : List NamedField) (v : Value) : Edited level v v :=
  ⟨id, rfl, fun _ => id, fun _ _ => rfl⟩

theorem trans (huv : Edited level u v) (hvw : Edited level v w) : Edited level u w where
  isObject := hvw.isObject ∘ huv.isObject
  name := hvw.name.trans huv.name
  there key := hvw.there key ∘ huv.there key
  unnamed key hkey := (hvw.unnamed key hkey).trans (huv.unnamed key hkey)

/-- What survived still does after it was edited. -/
theorem survives (huv : Survives level u v) (hvw : Edited level v w) :
    Survives (overlaid level) u w := by
  refine ⟨⟨huv.isObject.1, hvw.isObject huv.isObject.2⟩, ?_, ?_⟩
  · intro g hg
    -- the name is the same, and of other fields it is enough that they are there
    obtain ⟨f, hf, rfl⟩ := List.mem_map.mp hg
    by_cases hname : f.name = "name"
    · rw [if_pos hname, hname, hvw.name, ← hname]
      exact huv.named f hf
    · rw [if_neg hname]
      intro x hx hne
      obtain ⟨y, hy, -⟩ := huv.named f hf x hx hne
      obtain ⟨z, hz⟩ := Option.isSome_iff_exists.mp (hvw.there f.name (by simp [hy]))
      exact ⟨z, hz, trivial⟩
  · intro key hkey
    rw [names_overlaid] at hkey
    rw [hvw.unnamed key hkey, huv.unnamed key hkey]

/-- An entry is edited when its named fields are, as far as they are there. -/
theorem of_written {known changed other : List (String × Value)}
    (hknown : Fields.names known ⊆ level.map NamedField.name)
    (hchanged : Fields.names changed ⊆ level.map NamedField.name)
    (hname : (Value.object changed).canonical.get? "name" =
      (Value.object known).canonical.get? "name")
    (hthere : Fields.names known ⊆ Fields.names changed) :
    Edited level (Value.object (known ++ other)).canonical
      (Value.object (changed ++ other)).canonical := by
  refine ⟨fun _ => rfl, ?_, ?_, ?_⟩
  · simp only [Encode.get?_canonical_append, hname]
  · intro key
    simp only [Encode.isSome_get?_canonical_iff, names_append, List.mem_append]
    exact Or.imp_left fun h => hthere h
  · intro key hkey
    simp only [Encode.get?_canonical_append,
      Encode.get?_canonical_of_not_mem fun h => hkey (hknown h),
      Encode.get?_canonical_of_not_mem fun h => hkey (hchanged h)]

end Edited

/-- Laying a stored parameter over one keeps the name and all unknown fields, and takes no field
away. -/
theorem Parameter.edited_overlay (s : TemplateParameter) (p : Parameter) :
    Edited level p.encode.canonical (s.overlay p).encode.canonical := by
  refine Edited.of_written p.names_known (s.overlay p).names_known ?_ ?_
  · simp [TemplateParameter.overlay]
  · have hmin : p.min.isSome = true → (s.overlay p).min.isSome = true := by
      cases hbounds : s.bounds <;> simp [TemplateParameter.overlay, hbounds]
    have hmax : p.max.isSome = true → (s.overlay p).max.isSome = true := by
      cases hbounds : s.bounds <;> simp [TemplateParameter.overlay, hbounds]
    have hbaseline : p.baseline.isSome = true → (s.overlay p).baseline.isSome = true := by
      cases hbaseline : s.baseline <;> simp [TemplateParameter.overlay, hbaseline]
    have hvalues : p.values ≠ [] → (s.overlay p).values ≠ [] := by
      by_cases hvalues : s.values = [] <;> simp [TemplateParameter.overlay, hvalues]
    simp only [names_append]
    exact (((((List.Sublist.refl _).append (names_optional_sublist hmin)).append
      (names_optional_sublist hmax)).append (names_optional_sublist hbaseline)).append
        (names_nonEmptyList_sublist hvalues)).subset

theorem Metric.edited_overlay (s : TemplateMetric) (m : Metric) :
    Edited level m.encode.canonical (s.overlay m).encode.canonical := by
  refine Edited.of_written m.names_known (s.overlay m).names_known ?_ ?_
  · simp [TemplateMetric.overlay]
  · have hquery : m.query.isSome = true → (s.overlay m).query.isSome = true := by
      cases hquery : s.query <;> simp [TemplateMetric.overlay, hquery]
    simp only [names_append]
    exact ((List.Sublist.refl _).append (names_optional_sublist hquery)).subset

/-! ### The levels below a template -/

/-- The fields that a specification names, under a template. -/
def ExperimentSpec.overlaidLevel : List NamedField :=
  [{ name := "parameters", skipped := some (.array []),
      same := SameFront (Survives (overlaid Parameter.level)) },
    { name := "metrics", skipped := some (.array []),
      same := SameFront (Survives (overlaid Metric.level)) },
    { name := "patches", skipped := some (.array []),
      same := SameItems (Survives PatchTemplate.level) }]

/-- The fields that an experiment names, under a template. -/
def Experiment.overlaidLevel : List NamedField :=
  [{ name := "apiVersion" },
    { name := "kind" },
    { name := "metadata", same := Survives ObjectMeta.level },
    { name := "spec", same := Survives ExperimentSpec.overlaidLevel }]

namespace ExperimentTemplate

/-- Overlay a stored template on a specification. -/
def overlaySpec (t : ExperimentTemplate) (s : ExperimentSpec) : ExperimentSpec :=
  { s with
    parameters := overlayParameters t.parameters s.parameters
    metrics := overlayMetrics t.metrics s.metrics }

/-- Where entries of a list were edited and others were appended, the list comes first. -/
theorem restores_front {α : Type} {decode : Value → Decoded α} {encode : α → Value}
    {level : List NamedField} (h : Restores decode encode (Survives level))
    {write : List α → List α}
    (hwrite : ∀ as, Front (fun a b => Edited level (encode a).canonical (encode b).canonical) as
      (write as)) :
    Restores (list decode) (fun as => Encode.list encode (write as))
      (SameFront (Survives (overlaid level))) := by
  intro v as hv hdecode
  obtain ⟨items, others, rfl, hothers, hsame⟩ := restores_list h hv hdecode
  rw [canonical_list] at hothers ⊢
  cases hothers
  refine ⟨items, _, rfl, rfl, ?_⟩
  intro i x hx
  -- what would be written at the place without the template, and what is written there with it
  obtain ⟨y, hy, hxy⟩ := front_of_forall₂ hsame i x hx
  rw [List.getElem?_map, Option.map_eq_some_iff] at hy
  obtain ⟨a, ha, rfl⟩ := hy
  obtain ⟨b, hb, hab⟩ := hwrite as i a ha
  refine ⟨(encode b).canonical, ?_, hab.survives hxy⟩
  rw [List.getElem?_map, hb, Option.map_some]

theorem front_overlayParameters (stored : List TemplateParameter) (ps : List Parameter) :
    Front (fun p q => Edited Parameter.level p.encode.canonical q.encode.canonical) ps
      (overlayParameters stored ps) :=
  front_foldl_overlayByName (fun _ => .refl _ _) (fun _ _ _ => .trans) Parameter.edited_overlay
    stored ps

theorem front_overlayMetrics (stored : List TemplateMetric) (ms : List Metric) :
    Front (fun m n => Edited Metric.level m.encode.canonical n.encode.canonical) ms
      (overlayMetrics stored ms) :=
  front_foldl_overlayByName (fun _ => .refl _ _) (fun _ _ _ => .trans) Metric.edited_overlay
    stored ms

/-- Nothing of a specification that was read is lost when it is written with a template laid over
it, except that parameters and metrics are changed in place and more may follow. -/
theorem restores_overlaySpec (t : ExperimentTemplate) :
    Restores ExperimentSpec.decode (fun s => (t.overlaySpec s).encode)
      (Survives ExperimentSpec.overlaidLevel) := by
  intro v s hv h
  have hread := ExperimentSpec.readFrom_of_decode hv h
  have hparameters := restores_front Parameter.restores (front_overlayParameters t.parameters)
  have hmetrics := restores_front Metric.restores (front_overlayMetrics t.metrics)
  refine Survives.of_written hv hread.isObject (t.overlaySpec s).names_known hread.other ?_
  simp only [ExperimentSpec.overlaidLevel, List.forall_mem_cons]
  refine ⟨?_, ?_, ?_, nofun⟩
  · refine carries_nonEmptyList hv hparameters rfl hread.parameters fun hne => ?_
    simp [overlaySpec, (front_overlayParameters t.parameters _).ne_nil hne]
  · refine carries_nonEmptyList hv hmetrics rfl hread.metrics fun hne => ?_
    simp [overlaySpec, (front_overlayMetrics t.metrics _).ne_nil hne]
  · refine carries_nonEmptyList hv (restores_list PatchTemplate.restores) rfl hread.patches
      fun hne => ?_
    simp [overlaySpec, hne]

end ExperimentTemplate

namespace Experiment

theorem survives_overlay {v : Value} (hv : v.IsCanonical) {e : Experiment}
    (h : decode v = .ok e) (t : ExperimentTemplate) :
    Survives overlaidLevel v (t.overlay e).toValue := by
  have hread := readFrom_of_decode hv h
  refine Survives.of_written hv hread.isObject (t.overlay e).names_known hread.other ?_
  simp only [overlaidLevel, List.forall_mem_cons]
  refine ⟨?_, ?_, ?_, ?_, nofun⟩
  · exact carries_field hv restores_text hread.apiVersion (by simp [ExperimentTemplate.overlay])
  · exact carries_field hv restores_text hread.kind (by simp [ExperimentTemplate.overlay])
  · exact carries_field hv ObjectMeta.restores hread.metadata
      (by simp [ExperimentTemplate.overlay])
  · exact carries_field hv t.restores_overlaySpec hread.spec
      (by simp [ExperimentTemplate.overlay, ExperimentTemplate.overlaySpec])

/-- What is written for an experiment is read back, and no level of the value that it was read from
loses anything: unknown fields are the same, lists have the same items in turn, and a named field is
the same unless it was not there, or held what counts as nothing for it.

After a template was laid over the experiment, it is read back as well. Unknown fields are still the
same. The parameters and metrics of the experiment come first, each with its name and with all
fields that it had, and what the template states of them may be new. -/
theorem roundTrip {v : Value} (hv : v.IsCanonical) {e : Experiment} (h : decode v = .ok e) :
    decode e.toValue = .ok e ∧ Survives level v e.toValue ∧
      ∀ (w : Value) (t : ExperimentTemplate), w.IsCanonical → ExperimentTemplate.decode w = .ok t →
        decode (t.overlay e).toValue = .ok (t.overlay e) ∧
          Survives overlaidLevel v (t.overlay e).toValue := by
  have hsound := sound_of_decode hv h
  refine ⟨hsound.decode_toValue, survives_toValue hv h, fun w t hw ht => ?_⟩
  have hsendable := ExperimentTemplate.sendable_of_decode hw ht
  exact ⟨(hsound.overlay hsendable).decode_toValue, survives_overlay hv h t⟩

/-- The value of an experiment with an unknown field on every level, a choice without bounds, and
content that counts as nothing. -/
theorem roundTrip_web :
    let v : Value := (Value.object [
      ("apiVersion", .string "v1"), ("kind", .string "Experiment"), ("status", .null),
      ("metadata", .object [("name", .string "web"), ("namespace", .string ""),
        ("labels", .object [("team", .string "perf")])]),
      ("spec", .object [
        ("parameters", .array [
          .object [("name", .string "tier"), ("min", .null),
            ("values", .array [.string "small", .string "large"])],
          .object [("name", .string "replicas"), ("min", .ofInt 1), ("max", .ofInt 5),
            ("unit", .string "pods")]]),
        ("metrics", .array [.object [("name", .string "cost"), ("minimize", .bool true),
          ("weight", .ofInt 2)]]),
        ("patches", .array [.object [("patch", .string "\x7b\x7d"), ("type", .string "strategic"),
          ("targetRef", .object [("kind", .string "Deployment"), ("name", .string "web"),
            ("fieldPath", .string "spec")])]]),
        ("trialTemplate", .object [])])]).canonical
    let w : Value := (Value.object [("parameters", .array [
      .object [("name", .string "replicas"),
        ("bounds", .object [("min", .ofInt 2), ("max", .ofInt 8)])],
      .object [("name", .string "memory"), ("baseline", .ofInt 4)]])]).canonical
    ∃ e t, decode v = .ok e ∧ ExperimentTemplate.decode w = .ok t ∧
      decode e.toValue = .ok e ∧ Survives level v e.toValue ∧
      decode (t.overlay e).toValue = .ok (t.overlay e) ∧
      Survives overlaidLevel v (t.overlay e).toValue := by
  intro v w
  have hv : ∃ e, decode v = .ok e := ⟨_, rfl⟩
  have hw : ∃ t, ExperimentTemplate.decode w = .ok t := ⟨_, rfl⟩
  obtain ⟨e, he⟩ := hv
  obtain ⟨t, ht⟩ := hw
  obtain ⟨hread, hsurvives, htemplate⟩ := roundTrip (Value.isCanonical_canonical _) he
  exact ⟨e, t, he, ht, hread, hsurvives, htemplate w t (Value.isCanonical_canonical _) ht⟩

end Experiment

end ClusterTuning
