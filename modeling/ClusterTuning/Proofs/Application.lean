import ClusterTuning.Proofs.Experiment.Levels
import ClusterTuning.Scenario

/-!
# ClusterTuning.Proofs.Application

**What the generator is given is read back, unless a scenario is configured with a name.**

A scenario of an application is written as one object: its name, and behind it the configuration
that the remote API passes on. Both are fields of that object, so a configuration that has a field
`name` takes the place of the name of the scenario. Everything else that is put together of an
application and a scenario is written under names of its own and read as it was.

The record of an application is treated as those of an experiment: what is sound is read back. Only
the scenarios are told separately (`decode_encode`), because they may be read as others than those
that were written.

## Main statement

`StoredApplication.assemble_reads`: what is put together is read back exactly if the configuration
has no field `name`, and what is read instead if it has one.
-/

namespace ClusterTuning

open Decode

/-! ### Labels and parameters -/

namespace Decode

theorem eachEntry_texts (entries : List (String × String)) :
    eachEntry Value.decodeText (entries.map fun entry => (entry.1, Value.string entry.2)) =
      .ok entries := by
  induction entries with
  | nil => rfl
  | cons entry rest ih =>
      rw [List.map_cons, eachEntry, ih]
      rfl

/-- Texts in the order of their names are read back. -/
theorem reads_texts {entries : List (String × String)} (h : Fields.Ordered entries) :
    Reads (dictionary Value.decodeText) Encode.texts entries := by
  have hnames : Fields.names (entries.map fun entry => (entry.1, Value.string entry.2)) =
      Fields.names entries := by
    simp [Fields.names]
  have hcanonical : (Encode.texts entries).IsCanonical := by
    refine ⟨?_, Value.fieldsCanonical_iff.mpr ?_⟩
    · rw [Fields.Ordered, hnames]
      exact h
    · intro field hfield
      obtain ⟨entry, -, rfl⟩ := List.mem_map.mp hfield
      exact trivial
  rw [Reads, Value.canonical_eq_self _ hcanonical, Encode.texts, dictionary, eachEntry_texts]
  exact congrArg Except.ok (Fields.ofList_eq_self h)

/-- A list is read with what is read where its items were written. -/
theorem fits_of_each {α : Type} {decode : Value → Decoded α} {encode : α → Value} {as bs : List α}
    (h : each decode (as.map fun a => (encode a).canonical) = .ok bs) :
    Fits (list decode) (some [])
      (if as ≠ [] then some (Encode.list encode as).canonical else none) bs := by
  split
  · rw [canonical_list]
    exact h
  · rename_i hnil
    rw [of_not_not hnil] at h
    cases h
    rfl

/-- The entries of a dictionary are in the order of their names. -/
theorem ordered_of_dictionary {α : Type} {decode : Value → Decoded α} {v : Value}
    {entries : List (String × α)} (h : dictionary decode v = .ok entries) :
    Fields.Ordered entries := by
  cases v with
  | object fields =>
      rw [dictionary] at h
      split at h
      · cases h
      · cases h
        exact Fields.ordered_ofList _
  | _ => cases h

end Decode

namespace ContainerResources

/-- Labels that can be read back. -/
def Sound (r : ContainerResources) : Prop :=
  Fields.Ordered r.labels

/-- Resources that were read from canonical content can be read back. -/
theorem sound_of_decode {v : Value} (hv : v.IsCanonical) {r : ContainerResources}
    (h : decode v = .ok r) : r.Sound := by
  obtain ⟨content, hread, -⟩ := exists_content_of_closedRecord hv h
  obtain ⟨_, labels, hlabels, hfits, rfl⟩ := read_field_eq_done_iff.mp hread
  cases hlabels
  rcases fits_iff.mp hfits with ⟨-, hdefault⟩ | ⟨w, -, hw⟩
  · cases hdefault
    exact Fields.ordered_nil
  · exact ordered_of_dictionary hw

theorem Sound.reads {r : ContainerResources} (h : r.Sound) : Reads decode encode r := by
  refine closedRecord_canonical (read_field (f := ContainerResources.mk) rfl ?_)
  rw [Encode.get?_canonical_field, if_pos rfl]
  exact (reads_texts h).fits _

end ContainerResources

namespace ApplicationParameters

/-- Parameters that can be read back. -/
def Sound (p : ApplicationParameters) : Prop :=
  ∀ r, p.containerResources = some r → r.Sound

theorem sound_of_decode {v : Value} (hv : v.IsCanonical) {p : ApplicationParameters}
    (h : decode v = .ok p) : p.Sound := by
  obtain ⟨content, hread, hcontent⟩ := exists_content_of_closedRecord hv h
  obtain ⟨_, resources, hresources, hfits, rfl⟩ := read_field_eq_done_iff.mp hread
  cases hresources
  rintro r rfl
  obtain ⟨w, hw, -, hdecode⟩ := exists_of_fits_some hfits
  exact ContainerResources.sound_of_decode (hcontent _ w hw) hdecode

theorem Sound.reads {p : ApplicationParameters} (h : p.Sound) : Reads decode encode p := by
  refine closedRecord_canonical (read_field (f := ApplicationParameters.mk) rfl ?_)
  rw [Encode.get?_canonical_optional, if_pos rfl]
  exact fits_optional fun r hr => ⟨rfl, (h r hr).reads⟩

end ApplicationParameters

/-! ### Names with configuration -/

namespace NamedConfig

theorem get?_canonical_encode (c : NamedConfig) (hc : (Value.object c.config).IsCanonical)
    (key : String) : c.encode.canonical.get? key =
      (Fields.get? key c.config).or (if "name" = key then some (.string c.name) else none) := by
  rw [encode, Encode.get?_canonical_append, Value.canonical_eq_self _ hc, Value.get?_object,
    Encode.get?_canonical_field, Value.canonical_string]

/-- Without the name that is read, the configuration lies behind. -/
theorem unknown_canonical_encode (c : NamedConfig) (hc : (Value.object c.config).IsCanonical) :
    c.encode.canonical.unknown ["name"] = Fields.erase "name" c.config := by
  have hwritten := kept_unknown (Value.isCanonical_canonical c.encode) ["name"]
  refine Fields.eq_of_get?_eq hwritten.ordered (Fields.Ordered.erase hc.1 _) fun key => ?_
  rw [Value.get?_unknown, get?_canonical_encode c hc, Fields.get?_erase]
  by_cases hkey : "name" = key
  · simp [hkey]
  · simp [hkey, Ne.symm hkey]

/-- What is read as the name is the one of the configuration where there is one, and then it is
configuration no more. A name that is no text cannot be read. -/
theorem decode_encode (record : String) (c : NamedConfig)
    (hc : (Value.object c.config).IsCanonical) :
    decode record c.encode.canonical =
      (Value.decodeText ((Fields.get? "name" c.config).getD (.string c.name))).map fun name =>
        ⟨name, Fields.erase "name" c.config⟩ := by
  have hname := get?_canonical_encode c hc "name"
  have hconfig := unknown_canonical_encode c hc
  have hwritten := Value.isCanonical_canonical c.encode
  rw [if_pos rfl, Option.or_some] at hname
  cases hv : c.encode.canonical with
  | object fields =>
      rw [hv] at hname hconfig hwritten
      cases hdecode : Value.decodeText ((Fields.get? "name" c.config).getD (.string c.name)) with
      | ok name =>
          refine (openRecord_eq_ok_iff hwritten).mpr ⟨rfl, NamedConfig.mk name, ?_, ?_⟩
          · exact read_field rfl (fits_iff.mpr (.inr ⟨_, hname, hdecode⟩))
          · exact congrArg (NamedConfig.mk name) hconfig.symm
      | error e =>
          exact openRecord_eq_error hwritten rfl (read_field_of_error rfl hname hdecode)
  | _ => cases hv

theorem reads_of_plain (record name : String) :
    Reads (decode record) encode ⟨name, []⟩ :=
  decode_encode record ⟨name, []⟩ ⟨Fields.ordered_nil, trivial⟩

end NamedConfig

/-! ### Applications -/

namespace Application

/-- The names of the fields that an application names. -/
def named : List String :=
  ["apiVersion", "kind", "metadata", "resources", "parameters", "scenarios", "objectives"]

/-- The named fields as they are written. -/
def known (a : Application) : List (String × Value) :=
  Encode.field "apiVersion" (.string a.apiVersion) ++ Encode.field "kind" (.string a.kind) ++
    Encode.field "metadata" a.metadata.encode ++
    Encode.nonEmptyList "resources" Value.string a.resources ++
    Encode.optional "parameters" ApplicationParameters.encode a.parameters ++
    Encode.nonEmptyList "scenarios" NamedConfig.encode a.scenarios ++
    Encode.nonEmptyList "objectives" NamedConfig.encode a.objectives

theorem names_known (a : Application) : Fields.names a.known ⊆ named := by
  simp [known, names_append, names_field_subset, names_optional_subset,
    names_nonEmptyList_subset, named]

/-- An application of which everything but the scenarios can be read back. -/
structure Sound (a : Application) : Prop where
  metadata : a.metadata.Sound
  parameters : ∀ p, a.parameters = some p → p.Sound
  objectives : ∀ o ∈ a.objectives, Reads (NamedConfig.decode "Objective") NamedConfig.encode o
  other : Kept named a.other

/-- What is read where the scenarios were written. -/
def rereadScenarios (a : Application) : Decoded (List NamedConfig) :=
  each (NamedConfig.decode "ScenarioSpec") (a.scenarios.map fun c => c.encode.canonical)

/-- An application is read with the scenarios that are read where its own were written. -/
theorem Sound.decode_encode {a : Application} (h : a.Sound) :
    decode a.encode.canonical = a.rereadScenarios.map fun scenarios =>
      { a with scenarios := scenarios } := by
  have hversion : Fits Value.decodeText none (a.encode.canonical.get? "apiVersion") a.apiVersion :=
    h.other.fits_written (by simp [named]) (by simp) ((reads_text a.apiVersion).fits _)
  have hkind : Fits Value.decodeText none (a.encode.canonical.get? "kind") a.kind :=
    h.other.fits_written (by simp [named]) (by simp) ((reads_text a.kind).fits _)
  have hmetadata : Fits ObjectMeta.decode (some {}) (a.encode.canonical.get? "metadata")
      a.metadata :=
    h.other.fits_written (by simp [named]) (by simp) (h.metadata.reads.fits _)
  have hresources : Fits (list Value.decodeText) (some []) (a.encode.canonical.get? "resources")
      a.resources :=
    h.other.fits_written (by simp [named]) (by simp)
      (fits_nonEmptyList fun s (_ : s ∈ a.resources) => reads_text s)
  have hparameters : Fits (option ApplicationParameters.decode) (some none)
      (a.encode.canonical.get? "parameters") a.parameters :=
    h.other.fits_written (by simp [named]) (by simp)
      (fits_optional fun p hp => ⟨rfl, (h.parameters p hp).reads⟩)
  have hobjectives : Fits (list (NamedConfig.decode "Objective")) (some [])
      (a.encode.canonical.get? "objectives") a.objectives :=
    h.other.fits_written (by simp [named]) (by simp) (fits_nonEmptyList h.objectives)
  have hknown : a.encode.canonical.get? "scenarios" =
      (Value.object a.known).canonical.get? "scenarios" :=
    h.other.get?_named (by simp [named])
  have hwritten : a.encode.canonical.get? "scenarios" = if a.scenarios ≠ [] then
      some (Encode.list NamedConfig.encode a.scenarios).canonical else none := by
    rw [hknown]
    simp [known]
  -- all fields but the scenarios are read as they were written
  cases hscenarios : a.rereadScenarios with
  | ok scenarios =>
      have hfits : Fits (list (NamedConfig.decode "ScenarioSpec")) (some [])
          (a.encode.canonical.get? "scenarios") scenarios :=
        hwritten ▸ fits_of_each hscenarios
      exact openRecord_canonical (f := Application.mk a.apiVersion a.kind a.metadata a.resources
          a.parameters scenarios a.objectives) h.other a.names_known
        (read_field (read_field (read_field (read_field (read_field (read_field (read_field rfl
          hversion) hkind) hmetadata) hresources) hparameters) hfits) hobjectives)
  | error e =>
      have hthere : a.scenarios ≠ [] := by
        intro hnone
        rw [rereadScenarios, hnone] at hscenarios
        cases hscenarios
      have hfault : list (NamedConfig.decode "ScenarioSpec")
          (Encode.list NamedConfig.encode a.scenarios).canonical = .error e := by
        rw [canonical_list]
        exact hscenarios
      rw [if_pos hthere] at hwritten
      exact openRecord_eq_error (Value.isCanonical_canonical a.encode) rfl
        (read_field_of_wrong (read_field_of_error (read_field (read_field (read_field (read_field
          (read_field rfl hversion) hkind) hmetadata) hresources) hparameters) hwritten hfault)
          hobjectives)

end Application

/-! ### What is put together of an application and a scenario -/

theorem Scenario.isCanonical_of_decode {v : Value} (hv : v.IsCanonical) {scenario : Scenario}
    (h : decode v = .ok scenario) :
    ∀ x, scenario.configuration = some x → x.IsCanonical := by
  obtain ⟨content, hread, hcontent⟩ := exists_content_of_closedRecord hv h
  obtain ⟨_, links, hlinks, -, rfl⟩ := read_field_eq_done_iff.mp hread
  obtain ⟨_, configuration, hconfiguration, hfits, rfl⟩ := read_field_eq_done_iff.mp hlinks
  obtain ⟨_, objectives, hobjectives, -, rfl⟩ := read_field_eq_done_iff.mp hconfiguration
  obtain ⟨_, name, hname, -, rfl⟩ := read_field_eq_done_iff.mp hobjectives
  cases hname
  rintro x rfl
  obtain ⟨w, hw, -, hdecode⟩ := exists_of_fits_some hfits
  cases hdecode
  exact hcontent _ _ hw

/-- The configuration of a scenario, as fields. -/
def Scenario.settings (scenario : Scenario) : List (String × Value) :=
  (scenario.configuration.bind Value.fields?).getD []

/-- What a scenario puts into the descriptor of its application is canonical. -/
theorem Scenario.isCanonical_settings {v : Value} (hv : v.IsCanonical) {scenario : Scenario}
    (h : decode v = .ok scenario) : (Value.object scenario.settings).IsCanonical := by
  have hconfiguration := isCanonical_of_decode hv h
  rw [settings]
  cases hx : scenario.configuration with
  | none => exact ⟨Fields.ordered_nil, trivial⟩
  | some x =>
      cases x with
      | object fields => exact hconfiguration _ hx
      | _ => exact ⟨Fields.ordered_nil, trivial⟩

namespace StoredApplication

theorem sound_of_decode {v : Value} (hv : v.IsCanonical) {app : StoredApplication}
    (h : decode v = .ok app) : ∀ p, app.parameters = some p → p.Sound := by
  obtain ⟨content, hread, hcontent⟩ := exists_content_of_closedRecord hv h
  obtain ⟨_, objectives, hobjectives, -, rfl⟩ := read_field_eq_done_iff.mp hread
  obtain ⟨_, parameters, hparameters, hfits, rfl⟩ := read_field_eq_done_iff.mp hobjectives
  obtain ⟨_, resources, hresources, -, rfl⟩ := read_field_eq_done_iff.mp hparameters
  obtain ⟨_, ns, hns, -, rfl⟩ := read_field_eq_done_iff.mp hresources
  obtain ⟨_, name, hname, -, rfl⟩ := read_field_eq_done_iff.mp hns
  cases hname
  rintro p rfl
  obtain ⟨w, hw, -, hdecode⟩ := exists_of_fits_some hfits
  exact ApplicationParameters.sound_of_decode (hcontent _ w hw) hdecode

/-- With parameters that can be read back, the descriptor can be read back for any scenario. -/
theorem sound_assemble {app : StoredApplication} (h : ∀ p, app.parameters = some p → p.Sound)
    (scenario : Scenario) : (app.assemble scenario).Sound where
  metadata := Kept.nil _
  parameters := h
  objectives o ho := by
    obtain ⟨name, -, rfl⟩ := List.mem_map.mp ho
    exact NamedConfig.reads_of_plain "Objective" name
  other := Kept.nil _

/-- What is put together is read with the scenario that the configuration names. -/
theorem decode_encode_assemble {app : StoredApplication} {scenario : Scenario}
    (happ : ∀ p, app.parameters = some p → p.Sound)
    (hscenario : (Value.object scenario.settings).IsCanonical) :
    Application.decode (app.assemble scenario).encode.canonical =
      (Value.decodeText ((Fields.get? "name" scenario.settings).getD (.string scenario.name))).map
        fun name => { app.assemble scenario with
          scenarios := [⟨name, Fields.erase "name" scenario.settings⟩] } := by
  have hread := NamedConfig.decode_encode "ScenarioSpec" ⟨scenario.name, scenario.settings⟩
    hscenario
  have hscenarios : (app.assemble scenario).rereadScenarios =
      each (NamedConfig.decode "ScenarioSpec")
        [(NamedConfig.mk scenario.name scenario.settings).encode.canonical] := rfl
  rw [(sound_assemble happ scenario).decode_encode, hscenarios, each, hread]
  cases Value.decodeText ((Fields.get? "name" scenario.settings).getD (.string scenario.name)) with
  | ok name => rfl
  | error e => rfl

/-- What is put together of an application and a scenario is read back exactly if the configuration
of the scenario has no field `name`. Such a field is read as the name of the scenario, and the
configuration has lost it then, while all else is the same; if it is no text, nothing is read. -/
theorem assemble_reads {v w : Value} (hv : v.IsCanonical) (hw : w.IsCanonical)
    {app : StoredApplication} {scenario : Scenario} (happ : decode v = .ok app)
    (hscenario : Scenario.decode w = .ok scenario) :
    (Application.decode (app.assemble scenario).encode.canonical = .ok (app.assemble scenario) ↔
      "name" ∉ Fields.names scenario.settings) ∧
    ∀ x, Fields.get? "name" scenario.settings = some x →
      Application.decode (app.assemble scenario).encode.canonical =
        (Value.decodeText x).map fun name => { app.assemble scenario with
          scenarios := [⟨name, Fields.erase "name" scenario.settings⟩] } := by
  have hread := decode_encode_assemble (sound_of_decode hv happ)
    (Scenario.isCanonical_settings hw hscenario)
  refine ⟨⟨fun hsame hmem => ?_, fun hnone => ?_⟩, fun x hx => ?_⟩
  · -- a name that was configured is no configuration any more
    rw [hread, map_eq_ok_iff] at hsame
    obtain ⟨name, -, hdescriptor⟩ := hsame
    have hsettings : Fields.erase "name" scenario.settings = scenario.settings := by
      have hscenarios := congrArg Application.scenarios hdescriptor
      simpa [assemble, Scenario.settings] using congrArg (List.map NamedConfig.config) hscenarios
    have herased := Fields.get?_erase "name" "name" scenario.settings
    rw [hsettings, if_pos rfl] at herased
    rw [← Fields.isSome_get?_iff, herased] at hmem
    cases hmem
  · rw [hread, Fields.get?_eq_none_of_not_mem hnone, Fields.erase_eq_self hnone]
    rfl
  · rw [hread, hx]
    rfl

/-- An application as the remote API sends it. -/
def shop : Value :=
  (Value.object [("name", .string "shop"), ("namespace", .string "shop-ns"),
    ("resources", .array [.string "manifests/web.yaml"]),
    ("parameters", .object [("containerResources", .object [("labels", .object [
      ("tier", .string "web"), ("app", .string "shop")])])]),
    ("objectives", .array [.string "cost"])]).canonical

/-- A scenario with one of two configurations: a name may stand in it, or deeper inside. -/
def blackFriday (configuration : List (String × Value)) : Value :=
  (Value.object [("name", .string "black-friday"),
    ("configuration", .object configuration)]).canonical

/-- A name deeper inside of the configuration is not the one that is read. -/
theorem assemble_reads_locust :
    ∃ app scenario, decode shop = .ok app ∧
      Scenario.decode (blackFriday [("users", .ofInt 100),
        ("locust", .object [("name", .string "peak")])]) = .ok scenario ∧
      Fields.names scenario.settings = ["locust", "users"] ∧
      Application.decode (app.assemble scenario).encode.canonical =
        .ok (app.assemble scenario) := by
  have happ : ∃ app, decode shop = .ok app := ⟨_, rfl⟩
  have hscenario : ∃ scenario, Scenario.decode (blackFriday [("users", .ofInt 100),
      ("locust", .object [("name", .string "peak")])]) = .ok scenario ∧
      Fields.names scenario.settings = ["locust", "users"] := ⟨_, rfl, rfl⟩
  obtain ⟨app, happ⟩ := happ
  obtain ⟨scenario, hscenario, hnames⟩ := hscenario
  have hreads := assemble_reads (Value.isCanonical_canonical _) (Value.isCanonical_canonical _)
    happ hscenario
  exact ⟨app, scenario, happ, hscenario, hnames, hreads.1.mpr (by rw [hnames]; decide)⟩

/-- A name in the configuration is read as the name of the scenario, which has lost its own. -/
theorem assemble_name_lost :
    ∃ app scenario descriptor, decode shop = .ok app ∧
      Scenario.decode (blackFriday [("name", .string "peak"), ("users", .ofInt 100)]) =
        .ok scenario ∧
      Application.decode (app.assemble scenario).encode.canonical = .ok descriptor ∧
      (app.assemble scenario).scenarios = [⟨"black-friday",
        [("name", .string "peak"), ("users", .ofInt 100)]⟩] ∧
      descriptor.scenarios = [⟨"peak", [("users", .ofInt 100)]⟩] ∧
      descriptor ≠ app.assemble scenario := by
  refine ⟨_, _, _, rfl, rfl, rfl, rfl, rfl, ?_⟩
  intro hsame
  have hnames := congrArg (fun a => a.scenarios.map NamedConfig.name) hsame
  revert hnames
  decide

end StoredApplication

end ClusterTuning
