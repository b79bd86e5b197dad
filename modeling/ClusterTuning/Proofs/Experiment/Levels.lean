import ClusterTuning.Proofs.ExperimentTemplate
import ClusterTuning.Proofs.Records.Survival

/-!
# ClusterTuning.Proofs.Experiment.Levels

**The levels of an experiment, and what survives on each of them.**

Seven records are nested in an experiment, and each of them has a level of its own in the value. The
`level` of a record lists the fields that it names, with the content that it may leave out when it
is written, and with the level below where the content is a record again.

Every record is treated in the same way. What was read of a value is told field by field
(`ReadFrom`). From that follows that nothing is lost where the record is written (`restores`), and
that the record is one that can be read back (`Sound`). Its named fields are written first
(`known`), and those that it has kept come behind them. Whatever is sound is read back
(`Sound.reads`), whether it was read itself or changed since.
-/

namespace ClusterTuning

open Decode

/-! ### The levels of an experiment -/

/-- The fields that metadata names. -/
def ObjectMeta.level : List NamedField :=
  [{ name := "name" },
    { name := "namespace", skipped := some (.string "") }]

/-- The fields that a parameter names. -/
def Parameter.level : List NamedField :=
  [{ name := "name" },
    { name := "min", skipped := some .null },
    { name := "max", skipped := some .null },
    { name := "baseline", skipped := some .null },
    { name := "values", skipped := some (.array []) }]

/-- The fields that a metric names. -/
def Metric.level : List NamedField :=
  [{ name := "name" },
    { name := "minimize" },
    { name := "query", skipped := some .null }]

/-- The fields that a target names. -/
def TargetRef.level : List NamedField :=
  [{ name := "apiVersion" },
    { name := "kind" },
    { name := "name" },
    { name := "namespace", skipped := some (.string "") }]

/-- The fields that a patch template names. -/
def PatchTemplate.level : List NamedField :=
  [{ name := "patch" },
    { name := "targetRef", same := Survives TargetRef.level }]

/-- The fields that a specification names. -/
def ExperimentSpec.level : List NamedField :=
  [{ name := "parameters", skipped := some (.array []),
      same := SameItems (Survives Parameter.level) },
    { name := "metrics", skipped := some (.array []), same := SameItems (Survives Metric.level) },
    { name := "patches", skipped := some (.array []),
      same := SameItems (Survives PatchTemplate.level) }]

/-- The fields that an experiment names. -/
def Experiment.level : List NamedField :=
  [{ name := "apiVersion" },
    { name := "kind" },
    { name := "metadata", same := Survives ObjectMeta.level },
    { name := "spec", same := Survives ExperimentSpec.level }]

/-! ### Metadata, parameters and metrics -/

namespace ObjectMeta

/-- What metadata was read from. -/
structure ReadFrom (v : Value) (m : ObjectMeta) : Prop where
  isObject : v.isObject = true
  name : Fits Value.decodeText (some "") (v.get? "name") m.name
  «namespace» : Fits Value.decodeText (some "") (v.get? "namespace") m.namespace
  other : m.other = v.unknown (level.map NamedField.name)

theorem readFrom_of_decode {v : Value} (hv : v.IsCanonical) {m : ObjectMeta}
    (h : decode v = .ok m) : ReadFrom v m := by
  obtain ⟨hobject, record, hread, rfl⟩ := (openRecord_eq_ok_iff hv).mp h
  obtain ⟨_, ns, hns, hns', rfl⟩ := read_field_eq_done_iff.mp hread
  obtain ⟨_, name, hname, hname', rfl⟩ := read_field_eq_done_iff.mp hns
  cases hname
  exact ⟨hobject, hname', hns', rfl⟩

/-- The named fields as they are written. -/
def known (m : ObjectMeta) : List (String × Value) :=
  Encode.field "name" (.string m.name) ++ Encode.nonEmptyText "namespace" m.namespace

theorem names_known (m : ObjectMeta) : Fields.names m.known ⊆ level.map NamedField.name := by
  simp [known, names_append, names_field_subset, names_nonEmptyText_subset, level]

/-- Metadata that can be read back. -/
def Sound (m : ObjectMeta) : Prop :=
  Kept (level.map NamedField.name) m.other

theorem sound_of_decode {v : Value} (hv : v.IsCanonical) {m : ObjectMeta}
    (h : decode v = .ok m) : m.Sound :=
  kept_of_eq hv (readFrom_of_decode hv h).other

/-- A parameter is read as it was written. -/
theorem Sound.reads {m : ObjectMeta} (h : m.Sound) : Reads decode encode m := by
  refine openRecord_canonical (f := ObjectMeta.mk m.name m.namespace) h m.names_known
    (read_field (read_field rfl ?_) ?_)
  · exact h.fits_written (by simp [level]) (by simp) ((reads_text m.name).fits _)
  · exact h.fits_written (by simp [level]) (by simp) (fits_nonEmptyText m.namespace)

theorem restores : Restores decode encode (Survives level) := by
  intro v m hv h
  have hread := readFrom_of_decode hv h
  refine Survives.of_written hv hread.isObject m.names_known hread.other ?_
  simp only [level, List.forall_mem_cons]
  refine ⟨?_, ?_, nofun⟩
  · exact carries_field hv restores_text hread.name (by simp)
  · exact carries_nonEmptyText rfl rfl hread.namespace (by simp)

end ObjectMeta

namespace Parameter

structure ReadFrom (v : Value) (p : Parameter) : Prop where
  isObject : v.isObject = true
  name : Fits Value.decodeText none (v.get? "name") p.name
  min : Fits (option (Value.decodeInteger .signed)) (some none) (v.get? "min") p.min
  max : Fits (option (Value.decodeInteger .signed)) (some none) (v.get? "max") p.max
  baseline : Fits (option Source.value) (some none) (v.get? "baseline") p.baseline
  values : Fits (list Value.decodeText) (some []) (v.get? "values") p.values
  other : p.other = v.unknown (level.map NamedField.name)

theorem readFrom_of_decode {v : Value} (hv : v.IsCanonical) {p : Parameter}
    (h : decode v = .ok p) : ReadFrom v p := by
  obtain ⟨hobject, record, hread, rfl⟩ := (openRecord_eq_ok_iff hv).mp h
  obtain ⟨_, values, hvalues, hvalues', rfl⟩ := read_field_eq_done_iff.mp hread
  obtain ⟨_, baseline, hbaseline, hbaseline', rfl⟩ := read_field_eq_done_iff.mp hvalues
  obtain ⟨_, max, hmax, hmax', rfl⟩ := read_field_eq_done_iff.mp hbaseline
  obtain ⟨_, min, hmin, hmin', rfl⟩ := read_field_eq_done_iff.mp hmax
  obtain ⟨_, name, hname, hname', rfl⟩ := read_field_eq_done_iff.mp hmin
  cases hname
  exact ⟨hobject, hname', hmin', hmax', hbaseline', hvalues', rfl⟩

def known (p : Parameter) : List (String × Value) :=
  Encode.field "name" (.string p.name) ++ Encode.optional "min" Value.ofInt p.min ++
    Encode.optional "max" Value.ofInt p.max ++ Encode.optional "baseline" id p.baseline ++
    Encode.nonEmptyList "values" Value.string p.values

theorem names_known (p : Parameter) : Fields.names p.known ⊆ level.map NamedField.name := by
  simp [known, names_append, names_field_subset, names_optional_subset,
    names_nonEmptyList_subset, level]

structure Sound (p : Parameter) : Prop where
  isRead : p.IsRead
  other : Kept (level.map NamedField.name) p.other

theorem sound_of_decode {v : Value} (hv : v.IsCanonical) {p : Parameter}
    (h : decode v = .ok p) : p.Sound :=
  ⟨isRead_of_decode hv h, kept_of_eq hv (readFrom_of_decode hv h).other⟩

theorem Sound.reads {p : Parameter} (h : p.Sound) : Reads decode encode p := by
  have hmin : ∀ n, p.min = some n → (Value.ofInt n).isNull = false ∧
      Reads (Value.decodeInteger .signed) Value.ofInt n := fun n hn =>
    ⟨rfl, reads_ofInt (h.isRead.min n hn)⟩
  have hmax : ∀ n, p.max = some n → (Value.ofInt n).isNull = false ∧
      Reads (Value.decodeInteger .signed) Value.ofInt n := fun n hn =>
    ⟨rfl, reads_ofInt (h.isRead.max n hn)⟩
  have hbaseline : ∀ w, p.baseline = some w → (id w).isNull = false ∧
      Reads Source.value id w := fun w hw =>
    ⟨(h.isRead.baseline w hw).1, reads_value (h.isRead.baseline w hw).2⟩
  refine openRecord_canonical (f := Parameter.mk p.name p.min p.max p.baseline p.values) h.other
    p.names_known (read_field (read_field (read_field (read_field (read_field rfl ?_) ?_) ?_) ?_)
      ?_)
  · exact h.other.fits_written (by simp [level]) (by simp) ((reads_text p.name).fits _)
  · exact h.other.fits_written (by simp [level]) (by simp) (fits_optional hmin)
  · exact h.other.fits_written (by simp [level]) (by simp) (fits_optional hmax)
  · exact h.other.fits_written (by simp [level]) (by simp) (fits_optional hbaseline)
  · exact h.other.fits_written (by simp [level]) (by simp)
      (fits_nonEmptyList fun s (_ : s ∈ p.values) => reads_text s)

/-- Nothing of a parameter that was read is lost when it is written. -/
theorem restores : Restores decode encode (Survives level) := by
  intro v p hv h
  have hread := readFrom_of_decode hv h
  refine Survives.of_written hv hread.isObject p.names_known hread.other ?_
  simp only [level, List.forall_mem_cons]
  refine ⟨?_, ?_, ?_, ?_, ?_, nofun⟩
  · exact carries_field hv restores_text hread.name (by simp)
  · exact carries_optional hv (restores_integer .signed) rfl hread.min (by simp)
  · exact carries_optional hv (restores_integer .signed) rfl hread.max (by simp)
  · exact carries_optional hv restores_value rfl hread.baseline (by simp)
  · exact carries_nonEmptyList hv restores_texts rfl hread.values (by simp +contextual)

end Parameter

namespace Metric

structure ReadFrom (v : Value) (m : Metric) : Prop where
  isObject : v.isObject = true
  name : Fits Value.decodeText none (v.get? "name") m.name
  minimize : Fits Value.decodeFlag (some false) (v.get? "minimize") m.minimize
  query : Fits (option Value.decodeText) (some none) (v.get? "query") m.query
  other : m.other = v.unknown (level.map NamedField.name)

theorem readFrom_of_decode {v : Value} (hv : v.IsCanonical) {m : Metric}
    (h : decode v = .ok m) : ReadFrom v m := by
  obtain ⟨hobject, record, hread, rfl⟩ := (openRecord_eq_ok_iff hv).mp h
  obtain ⟨_, query, hquery, hquery', rfl⟩ := read_field_eq_done_iff.mp hread
  obtain ⟨_, minimize, hminimize, hminimize', rfl⟩ := read_field_eq_done_iff.mp hquery
  obtain ⟨_, name, hname, hname', rfl⟩ := read_field_eq_done_iff.mp hminimize
  cases hname
  exact ⟨hobject, hname', hminimize', hquery', rfl⟩

def known (m : Metric) : List (String × Value) :=
  Encode.field "name" (.string m.name) ++ Encode.field "minimize" (.bool m.minimize) ++
    Encode.optional "query" Value.string m.query

theorem names_known (m : Metric) : Fields.names m.known ⊆ level.map NamedField.name := by
  simp [known, names_append, names_field_subset, names_optional_subset, level]

def Sound (m : Metric) : Prop :=
  Kept (level.map NamedField.name) m.other

theorem sound_of_decode {v : Value} (hv : v.IsCanonical) {m : Metric} (h : decode v = .ok m) :
    m.Sound :=
  kept_of_eq hv (readFrom_of_decode hv h).other

theorem Sound.reads {m : Metric} (h : m.Sound) : Reads decode encode m := by
  have hflag : Reads Value.decodeFlag Value.bool m.minimize := rfl
  have hquery : ∀ q, m.query = some q → (Value.string q).isNull = false ∧
      Reads Value.decodeText Value.string q := fun q _ => ⟨rfl, reads_text q⟩
  refine openRecord_canonical (f := Metric.mk m.name m.minimize m.query) h m.names_known
    (read_field (read_field (read_field rfl ?_) ?_) ?_)
  · exact h.fits_written (by simp [level]) (by simp) ((reads_text m.name).fits _)
  · exact h.fits_written (by simp [level]) (by simp) (hflag.fits _)
  · exact h.fits_written (by simp [level]) (by simp) (fits_optional hquery)

/-- Nothing of a metric that was read is lost when it is written. -/
theorem restores : Restores decode encode (Survives level) := by
  intro v m hv h
  have hread := readFrom_of_decode hv h
  refine Survives.of_written hv hread.isObject m.names_known hread.other ?_
  simp only [level, List.forall_mem_cons]
  refine ⟨?_, ?_, ?_, nofun⟩
  · exact carries_field hv restores_text hread.name (by simp)
  · exact carries_field hv restores_flag hread.minimize (by simp)
  · exact carries_optional hv restores_text rfl hread.query (by simp)

end Metric

/-! ### Patch templates -/

namespace TargetRef

structure ReadFrom (v : Value) (t : TargetRef) : Prop where
  isObject : v.isObject = true
  apiVersion : Fits Value.decodeText (some "") (v.get? "apiVersion") t.apiVersion
  kind : Fits Value.decodeText (some "") (v.get? "kind") t.kind
  name : Fits Value.decodeText (some "") (v.get? "name") t.name
  «namespace» : Fits Value.decodeText (some "") (v.get? "namespace") t.namespace
  other : t.other = v.unknown (level.map NamedField.name)

theorem readFrom_of_decode {v : Value} (hv : v.IsCanonical) {t : TargetRef}
    (h : decode v = .ok t) : ReadFrom v t := by
  obtain ⟨hobject, record, hread, rfl⟩ := (openRecord_eq_ok_iff hv).mp h
  obtain ⟨_, ns, hns, hns', rfl⟩ := read_field_eq_done_iff.mp hread
  obtain ⟨_, name, hname, hname', rfl⟩ := read_field_eq_done_iff.mp hns
  obtain ⟨_, kind, hkind, hkind', rfl⟩ := read_field_eq_done_iff.mp hname
  obtain ⟨_, version, hversion, hversion', rfl⟩ := read_field_eq_done_iff.mp hkind
  cases hversion
  exact ⟨hobject, hversion', hkind', hname', hns', rfl⟩

def known (t : TargetRef) : List (String × Value) :=
  Encode.field "apiVersion" (.string t.apiVersion) ++ Encode.field "kind" (.string t.kind) ++
    Encode.field "name" (.string t.name) ++ Encode.nonEmptyText "namespace" t.namespace

theorem names_known (t : TargetRef) : Fields.names t.known ⊆ level.map NamedField.name := by
  simp [known, names_append, names_field_subset, names_nonEmptyText_subset, level]

def Sound (t : TargetRef) : Prop :=
  Kept (level.map NamedField.name) t.other

theorem sound_of_decode {v : Value} (hv : v.IsCanonical) {t : TargetRef}
    (h : decode v = .ok t) : t.Sound :=
  kept_of_eq hv (readFrom_of_decode hv h).other

theorem Sound.reads {t : TargetRef} (h : t.Sound) : Reads decode encode t := by
  refine openRecord_canonical (f := TargetRef.mk t.apiVersion t.kind t.name t.namespace) h
    t.names_known (read_field (read_field (read_field (read_field rfl ?_) ?_) ?_) ?_)
  · exact h.fits_written (by simp [level]) (by simp) ((reads_text t.apiVersion).fits _)
  · exact h.fits_written (by simp [level]) (by simp) ((reads_text t.kind).fits _)
  · exact h.fits_written (by simp [level]) (by simp) ((reads_text t.name).fits _)
  · exact h.fits_written (by simp [level]) (by simp) (fits_nonEmptyText t.namespace)

/-- Nothing of a target that was read is lost when it is written. -/
theorem restores : Restores decode encode (Survives level) := by
  intro v t hv h
  have hread := readFrom_of_decode hv h
  refine Survives.of_written hv hread.isObject t.names_known hread.other ?_
  simp only [level, List.forall_mem_cons]
  refine ⟨?_, ?_, ?_, ?_, nofun⟩
  · exact carries_field hv restores_text hread.apiVersion (by simp)
  · exact carries_field hv restores_text hread.kind (by simp)
  · exact carries_field hv restores_text hread.name (by simp)
  · exact carries_nonEmptyText rfl rfl hread.namespace (by simp)

end TargetRef

namespace PatchTemplate

structure ReadFrom (v : Value) (t : PatchTemplate) : Prop where
  isObject : v.isObject = true
  patch : Fits Value.decodeText (some "") (v.get? "patch") t.patch
  targetRef : Fits TargetRef.decode (some {}) (v.get? "targetRef") t.targetRef
  other : t.other = v.unknown (level.map NamedField.name)

theorem readFrom_of_decode {v : Value} (hv : v.IsCanonical) {t : PatchTemplate}
    (h : decode v = .ok t) : ReadFrom v t := by
  obtain ⟨hobject, record, hread, rfl⟩ := (openRecord_eq_ok_iff hv).mp h
  obtain ⟨_, target, htarget, htarget', rfl⟩ := read_field_eq_done_iff.mp hread
  obtain ⟨_, patch, hpatch, hpatch', rfl⟩ := read_field_eq_done_iff.mp htarget
  cases hpatch
  exact ⟨hobject, hpatch', htarget', rfl⟩

def known (t : PatchTemplate) : List (String × Value) :=
  Encode.field "patch" (.string t.patch) ++ Encode.field "targetRef" t.targetRef.encode

theorem names_known (t : PatchTemplate) : Fields.names t.known ⊆ level.map NamedField.name := by
  simp [known, names_append, names_field_subset, level]

structure Sound (t : PatchTemplate) : Prop where
  targetRef : t.targetRef.Sound
  other : Kept (level.map NamedField.name) t.other

theorem sound_of_decode {v : Value} (hv : v.IsCanonical) {t : PatchTemplate}
    (h : decode v = .ok t) : t.Sound := by
  have hread := readFrom_of_decode hv h
  refine ⟨?_, kept_of_eq hv hread.other⟩
  exact of_fits (fun _ => hv.of_get?) hread.targetRef (Kept.nil _) TargetRef.sound_of_decode

theorem Sound.reads {t : PatchTemplate} (h : t.Sound) : Reads decode encode t := by
  refine openRecord_canonical (f := PatchTemplate.mk t.patch t.targetRef) h.other t.names_known
    (read_field (read_field rfl ?_) ?_)
  · exact h.other.fits_written (by simp [level]) (by simp) ((reads_text t.patch).fits _)
  · exact h.other.fits_written (by simp [level]) (by simp) (h.targetRef.reads.fits _)

/-- Nothing of a template of patches that was read is lost when it is written. -/
theorem restores : Restores decode encode (Survives level) := by
  intro v t hv h
  have hread := readFrom_of_decode hv h
  refine Survives.of_written hv hread.isObject t.names_known hread.other ?_
  simp only [level, List.forall_mem_cons]
  refine ⟨?_, ?_, nofun⟩
  · exact carries_field hv restores_text hread.patch (by simp)
  · exact carries_field hv TargetRef.restores hread.targetRef (by simp)

end PatchTemplate

/-! ### Experiments -/

namespace ExperimentSpec

structure ReadFrom (v : Value) (s : ExperimentSpec) : Prop where
  isObject : v.isObject = true
  parameters : Fits (list Parameter.decode) (some []) (v.get? "parameters") s.parameters
  metrics : Fits (list Metric.decode) (some []) (v.get? "metrics") s.metrics
  patches : Fits (list PatchTemplate.decode) (some []) (v.get? "patches") s.patches
  other : s.other = v.unknown (level.map NamedField.name)

theorem readFrom_of_decode {v : Value} (hv : v.IsCanonical) {s : ExperimentSpec}
    (h : decode v = .ok s) : ReadFrom v s := by
  obtain ⟨hobject, record, hread, rfl⟩ := (openRecord_eq_ok_iff hv).mp h
  obtain ⟨_, patches, hpatches, hpatches', rfl⟩ := read_field_eq_done_iff.mp hread
  obtain ⟨_, metrics, hmetrics, hmetrics', rfl⟩ := read_field_eq_done_iff.mp hpatches
  obtain ⟨_, parameters, hparameters, hparameters', rfl⟩ := read_field_eq_done_iff.mp hmetrics
  cases hparameters
  exact ⟨hobject, hparameters', hmetrics', hpatches', rfl⟩

def known (s : ExperimentSpec) : List (String × Value) :=
  Encode.nonEmptyList "parameters" Parameter.encode s.parameters ++
    Encode.nonEmptyList "metrics" Metric.encode s.metrics ++
    Encode.nonEmptyList "patches" PatchTemplate.encode s.patches

theorem names_known (s : ExperimentSpec) : Fields.names s.known ⊆ level.map NamedField.name := by
  simp [known, names_append, names_nonEmptyList_subset, level]

structure Sound (s : ExperimentSpec) : Prop where
  parameters : ∀ p ∈ s.parameters, p.Sound
  metrics : ∀ m ∈ s.metrics, m.Sound
  patches : ∀ t ∈ s.patches, t.Sound
  other : Kept (level.map NamedField.name) s.other

theorem sound_of_decode {v : Value} (hv : v.IsCanonical) {s : ExperimentSpec}
    (h : decode v = .ok s) : s.Sound := by
  have hread := readFrom_of_decode hv h
  refine ⟨?_, ?_, ?_, kept_of_eq hv hread.other⟩
  · exact of_fits_list (fun _ => hv.of_get?) hread.parameters Parameter.sound_of_decode
  · exact of_fits_list (fun _ => hv.of_get?) hread.metrics Metric.sound_of_decode
  · exact of_fits_list (fun _ => hv.of_get?) hread.patches PatchTemplate.sound_of_decode

theorem Sound.reads {s : ExperimentSpec} (h : s.Sound) : Reads decode encode s := by
  refine openRecord_canonical (f := ExperimentSpec.mk s.parameters s.metrics s.patches) h.other
    s.names_known (read_field (read_field (read_field rfl ?_) ?_) ?_)
  · exact h.other.fits_written (by simp [level]) (by simp)
      (fits_nonEmptyList fun p hp => (h.parameters p hp).reads)
  · exact h.other.fits_written (by simp [level]) (by simp)
      (fits_nonEmptyList fun m hm => (h.metrics m hm).reads)
  · exact h.other.fits_written (by simp [level]) (by simp)
      (fits_nonEmptyList fun t ht => (h.patches t ht).reads)

/-- Nothing of a specification that was read is lost when it is written, in the lists of all its
levels. -/
theorem restores : Restores decode encode (Survives level) := by
  intro v s hv h
  have hread := readFrom_of_decode hv h
  refine Survives.of_written hv hread.isObject s.names_known hread.other ?_
  simp only [level, List.forall_mem_cons]
  refine ⟨?_, ?_, ?_, nofun⟩
  · exact carries_nonEmptyList hv (restores_list Parameter.restores) rfl hread.parameters
      (by simp +contextual)
  · exact carries_nonEmptyList hv (restores_list Metric.restores) rfl hread.metrics
      (by simp +contextual)
  · exact carries_nonEmptyList hv (restores_list PatchTemplate.restores) rfl hread.patches
      (by simp +contextual)

end ExperimentSpec

namespace Experiment

structure ReadFrom (v : Value) (e : Experiment) : Prop where
  isObject : v.isObject = true
  apiVersion : Fits Value.decodeText none (v.get? "apiVersion") e.apiVersion
  kind : Fits Value.decodeText none (v.get? "kind") e.kind
  metadata : Fits ObjectMeta.decode (some {}) (v.get? "metadata") e.metadata
  spec : Fits ExperimentSpec.decode (some {}) (v.get? "spec") e.spec
  other : e.other = v.unknown (level.map NamedField.name)

theorem readFrom_of_decode {v : Value} (hv : v.IsCanonical) {e : Experiment}
    (h : decode v = .ok e) : ReadFrom v e := by
  obtain ⟨hobject, record, hread, rfl⟩ := (openRecord_eq_ok_iff hv).mp h
  obtain ⟨_, spec, hspec, hspec', rfl⟩ := read_field_eq_done_iff.mp hread
  obtain ⟨_, metadata, hmetadata, hmetadata', rfl⟩ := read_field_eq_done_iff.mp hspec
  obtain ⟨_, kind, hkind, hkind', rfl⟩ := read_field_eq_done_iff.mp hmetadata
  obtain ⟨_, version, hversion, hversion', rfl⟩ := read_field_eq_done_iff.mp hkind
  cases hversion
  exact ⟨hobject, hversion', hkind', hmetadata', hspec', rfl⟩

def known (e : Experiment) : List (String × Value) :=
  Encode.field "apiVersion" (.string e.apiVersion) ++ Encode.field "kind" (.string e.kind) ++
    Encode.field "metadata" e.metadata.encode ++ Encode.field "spec" e.spec.encode

theorem names_known (e : Experiment) : Fields.names e.known ⊆ level.map NamedField.name := by
  simp [known, names_append, names_field_subset, level]

structure Sound (e : Experiment) : Prop where
  metadata : e.metadata.Sound
  spec : e.spec.Sound
  other : Kept (level.map NamedField.name) e.other

theorem sound_of_decode {v : Value} (hv : v.IsCanonical) {e : Experiment}
    (h : decode v = .ok e) : e.Sound := by
  have hread := readFrom_of_decode hv h
  refine ⟨?_, ?_, kept_of_eq hv hread.other⟩
  · exact of_fits (fun _ => hv.of_get?) hread.metadata (Kept.nil _) ObjectMeta.sound_of_decode
  · exact of_fits (fun _ => hv.of_get?) hread.spec ⟨nofun, nofun, nofun, Kept.nil _⟩
      ExperimentSpec.sound_of_decode

theorem Sound.decode_toValue {e : Experiment} (h : e.Sound) : decode e.toValue = .ok e := by
  refine openRecord_canonical (f := Experiment.mk e.apiVersion e.kind e.metadata e.spec) h.other
    e.names_known (read_field (read_field (read_field (read_field rfl ?_) ?_) ?_) ?_)
  · exact h.other.fits_written (by simp [level]) (by simp) ((reads_text e.apiVersion).fits _)
  · exact h.other.fits_written (by simp [level]) (by simp) ((reads_text e.kind).fits _)
  · exact h.other.fits_written (by simp [level]) (by simp) (h.metadata.reads.fits _)
  · exact h.other.fits_written (by simp [level]) (by simp) (h.spec.reads.fits _)

/-- Nothing of an experiment that was read is lost when it is written. -/
theorem survives_toValue {v : Value} (hv : v.IsCanonical) {e : Experiment}
    (h : decode v = .ok e) : Survives level v e.toValue := by
  have hread := readFrom_of_decode hv h
  refine Survives.of_written hv hread.isObject e.names_known hread.other ?_
  simp only [level, List.forall_mem_cons]
  refine ⟨?_, ?_, ?_, ?_, nofun⟩
  · exact carries_field hv restores_text hread.apiVersion (by simp)
  · exact carries_field hv restores_text hread.kind (by simp)
  · exact carries_field hv ObjectMeta.restores hread.metadata (by simp)
  · exact carries_field hv ExperimentSpec.restores hread.spec (by simp)

end Experiment

end ClusterTuning
