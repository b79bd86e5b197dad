import ClusterTuning.Proofs.Patch.Leaves
import Mathlib.Data.List.Dedup

/-!
# ClusterTuning.Proofs.Patch.FieldNames

**What becomes of the fields of a patch whose names are templates.**

Each field of an object is rendered by itself, name and value, and the rendered fields are stored
one after the other (`exists_of_renderFields`). An object has one place for each name. So fields
whose names render to the same fall together, and the last of them stays; in a patch that was read,
this is the one whose name comes last in the order of names. All fields are kept exactly if no two
names of the object render to the same (`StoredFields.keepsAll_iff`).

A field that falls away takes its value along, so the rendered patch can have fewer objects than the
patch, and they may stand under other names. Every one of them is followed back to where it comes
from (`sourceAt?`).

## Main statements

* `rendersTo_sourceAt?`: every position of a rendered value is rendered from its source.
* `renderBody_fieldNames`: the fields of every object of the body of a patch.
-/

namespace ClusterTuning

/-! ### Entries of the same name -/

namespace Fields

variable {α : Type}

theorem Ordered.nodup_names {fields : List (String × α)} (h : Ordered fields) :
    (names fields).Nodup :=
  List.Pairwise.imp (fun hlt => hlt.ne) h

/-- Entries are all kept exactly if no two of them have the same name. -/
theorem length_ofList_eq_iff {entries : List (String × α)} :
    (ofList entries).length = entries.length ↔ (names entries).Nodup := by
  have hperm : (names (ofList entries)).Perm (names entries).dedup := by
    refine (List.perm_ext_iff_of_nodup (ordered_ofList entries).nodup_names
      (List.nodup_dedup _)).mpr fun name => ?_
    rw [List.mem_dedup, ofList, ← putAll, mem_names_putAll_iff]
    simp [names]
  have hlength : (ofList entries).length = (names entries).dedup.length := by
    rw [← hperm.length_eq, names, List.length_map]
  have hnames : entries.length = (names entries).length := (List.length_map _).symm
  rw [hlength, hnames]
  constructor
  · intro h
    rw [← List.dedup_eq_self]
    exact (List.dedup_sublist _).eq_of_length h
  · intro h
    rw [List.dedup_eq_self.mpr h]

end Fields

/-- The first hits along two lists are related where all items are. -/
theorem rel_findSome? {α β γ δ : Type} {R : α → β → Prop} {S : γ → δ → Prop} {f : α → Option γ}
    {g : β → Option δ} (hfg : ∀ a b, R a b → Option.Rel S (f a) (g b)) {as : List α} {bs : List β}
    (h : List.Forall₂ R as bs) : Option.Rel S (as.findSome? f) (bs.findSome? g) := by
  induction h with
  | nil => exact Option.Rel.none
  | @cons a b as bs hab hrest ih =>
      have hhead := hfg a b hab
      rw [List.findSome?_cons, List.findSome?_cons]
      generalize f a = x at hhead ⊢
      generalize g b = y at hhead ⊢
      cases hhead with
      | none => exact ih
      | some hxy => exact Option.Rel.some hxy

namespace Patch

variable {key : String} {context : PatchContext}

/-! ### Names that render to the same -/

/-- What the names of fields render to. -/
def renderedNames (key : String) (context : PatchContext) (fields : List (String × Value)) :
    List (Except Failure String) :=
  fields.map fun field => renderName key context field.1

theorem renderedNames_of_forall₂ {fields rendered : List (String × Value)}
    (h : List.Forall₂ (FieldRendersTo key context) fields rendered) :
    renderedNames key context fields = (Fields.names rendered).map .ok := by
  induction h with
  | nil => rfl
  | cons hfield _ ih => exact congrArg₂ List.cons hfield.name ih

/-- The value of the last field whose name renders to a given one. -/
def lastNamed? (key : String) (context : PatchContext) (given : String)
    (fields : List (String × Value)) : Option Value :=
  fields.reverse.findSome? fun field =>
    if renderName key context field.1 = .ok given then some field.2 else none

theorem mem_of_lastNamed? {given : String} {fields : List (String × Value)} {v : Value}
    (h : lastNamed? key context given fields = some v) : ∃ name, (name, v) ∈ fields := by
  obtain ⟨field, hfield, hv⟩ := List.exists_of_findSome?_eq_some h
  split at hv
  · cases hv
    exact ⟨field.1, List.mem_reverse.mp hfield⟩
  · cases hv

/-- A field is the last one that its name stands for if no field behind it has a name that renders
to the same. -/
theorem lastNamed?_of_split {given : String} {front back : List (String × Value)}
    {field : String × Value} (hname : renderName key context field.1 = .ok given)
    (hback : .ok given ∉ renderedNames key context back) :
    lastNamed? key context given (front ++ field :: back) = some field.2 := by
  have hnone : lastNamed? key context given back = none := by
    refine List.findSome?_eq_none_iff.mpr fun other hother => ?_
    refine if_neg fun hsame => hback ?_
    exact List.mem_map.mpr ⟨other, List.mem_reverse.mp hother, hsame⟩
  rw [lastNamed?] at hnone
  rw [lastNamed?, List.reverse_append, List.reverse_cons, List.findSome?_append,
    List.findSome?_append, hnone]
  simp [hname]

/-- Under each name is stored what the last field of that name is rendered to. -/
theorem rel_get?_of_renderFields {fields ws : List (String × Value)}
    (h : renderFields key context [] fields = .ok ws) (given : String) :
    Option.Rel (RendersTo key context) (lastNamed? key context given fields)
      (Fields.get? given ws) := by
  obtain ⟨rendered, hrendered, rfl⟩ := exists_of_renderFields h
  have hstored : Fields.get? given (Fields.putAll [] rendered) =
      rendered.reverse.findSome? fun entry => if entry.1 = given then some entry.2 else none :=
    Fields.get?_ofList given rendered
  rw [hstored]
  refine rel_findSome? (fun field entry hfield => ?_) (List.forall₂_reverse_iff.mpr hrendered)
  rw [hfield.name]
  by_cases hentry : entry.1 = given
  · rw [if_pos hentry, if_pos (congrArg Except.ok hentry)]
    exact Option.Rel.some hfield.value
  · rw [if_neg hentry, if_neg fun hsame => hentry (Except.ok.inj hsame)]
    exact Option.Rel.none

/-- The last of the fields whose names render to the same is stored under that name. -/
theorem get?_of_split {front back ws : List (String × Value)} {field : String × Value}
    (h : renderFields key context [] (front ++ field :: back) = .ok ws)
    (hback : renderName key context field.1 ∉ renderedNames key context back) :
    ∃ given w, renderName key context field.1 = .ok given ∧
      renderValue key context field.2 = .ok w ∧ Fields.get? given ws = some w := by
  obtain ⟨rendered, hrendered, -⟩ := exists_of_renderFields h
  -- the name was rendered with the others, so there is a text that it renders to
  have hmem : renderName key context field.1 ∈
      renderedNames key context (front ++ field :: back) :=
    List.mem_map_of_mem (by simp)
  rw [renderedNames_of_forall₂ hrendered] at hmem
  obtain ⟨given, -, hgiven⟩ := List.mem_map.mp hmem
  rw [← hgiven] at hback
  have hrel := rel_get?_of_renderFields h given
  rw [lastNamed?_of_split hgiven.symm hback] at hrel
  cases hstored : Fields.get? given ws with
  | none =>
      rw [hstored] at hrel
      cases hrel
  | some w =>
      rw [hstored] at hrel
      cases hrel with
      | some hvalue => exact ⟨given, w, hgiven.symm, hvalue, hstored⟩

/-! ### The fields of an object -/

/-- All fields are kept: there are as many as before, and under the rendered name of each of them
stands its rendered value. -/
structure KeepsAll (key : String) (context : PatchContext) (source ws : List (String × Value)) :
    Prop where
  /-- There are as many fields. -/
  length_eq : ws.length = source.length
  /-- Each value stands under its name. -/
  each : ∀ field ∈ source, ∃ given w, renderName key context field.1 = .ok given ∧
    renderValue key context field.2 = .ok w ∧ Fields.get? given ws = some w

/-- The fields of an object are stored under their rendered names. -/
structure StoredFields (key : String) (context : PatchContext) (source ws : List (String × Value)) :
    Prop where
  /-- The fields of the patch stand in the order of their names. -/
  ordered : Fields.Ordered source
  /-- Each name occurs once. -/
  nodup : (Fields.names ws).Nodup
  /-- The names are those to which the names of the patch render. -/
  mem_names_iff : ∀ given, given ∈ Fields.names ws ↔
    ∃ field ∈ source, renderName key context field.1 = .ok given
  /-- Of the fields whose names render to the same, the value of the last one stands under it. -/
  last : ∀ front field back, source = front ++ field :: back →
    renderName key context field.1 ∉ renderedNames key context back →
      ∃ given w, renderName key context field.1 = .ok given ∧
        renderValue key context field.2 = .ok w ∧ Fields.get? given ws = some w
  /-- All fields are kept exactly if no two names render to the same. -/
  keepsAll_iff : KeepsAll key context source ws ↔ (renderedNames key context source).Nodup

/-- What is stored of rendered fields: under each rendered name the last field that was rendered to
it, since a later field overwrites an earlier one. -/
theorem storedFields_of_renderFields {source ws : List (String × Value)}
    (hordered : Fields.Ordered source) (h : renderFields key context [] source = .ok ws) :
    StoredFields key context source ws := by
  obtain ⟨rendered, hrendered, hstored⟩ := exists_of_renderFields h
  have hws : Fields.ofList rendered = ws := hstored
  have hnames := renderedNames_of_forall₂ hrendered
  have hdistinct : (renderedNames key context source).Nodup ↔ ws.length = source.length := by
    rw [hnames, List.nodup_map_iff fun a b hab => Except.ok.inj hab,
      ← Fields.length_ofList_eq_iff, hws, hrendered.length_eq]
  constructor
  case ordered => exact hordered
  case nodup =>
    rw [← hws]
    exact (Fields.ordered_ofList rendered).nodup_names
  case mem_names_iff =>
    intro given
    have hmem : given ∈ Fields.names ws ↔ .ok given ∈ renderedNames key context source := by
      rw [hnames, ← hws, Fields.ofList, ← Fields.putAll, Fields.mem_names_putAll_iff]
      simp [Fields.names]
    rw [hmem, renderedNames, List.mem_map]
  case last =>
    rintro front field back rfl hback
    exact get?_of_split h hback
  case keepsAll_iff =>
    constructor
    · intro hkeeps
      exact hdistinct.mpr hkeeps.length_eq
    · intro hnodup
      refine ⟨hdistinct.mp hnodup, fun field hfield => ?_⟩
      -- without repetitions every field is the last one of its name
      obtain ⟨front, back, rfl⟩ := List.append_of_mem hfield
      rw [renderedNames, List.map_append, List.map_cons] at hnodup
      exact get?_of_split h (List.nodup_cons.mp (List.nodup_append.mp hnodup).2.1).1

/-! ### Back to the source -/

/-- What a step into a rendered value leads to in the patch. Under a name this is the last field
whose name renders to it. -/
def sourceBehind? (key : String) (context : PatchContext) : Value → Value.Step → Option Value
  | .object fields, .field given => lastNamed? key context given fields
  | v, step => v.behind? step

/-- What a path in a rendered value leads to in the patch. -/
def sourceAt? (key : String) (context : PatchContext) : List Value.Step → Value → Option Value
  | [], v => some v
  | step :: path, v => (sourceBehind? key context v step).bind (sourceAt? key context path)

/-- Behind a step stands the rendering of its source. -/
theorem rendersTo_sourceBehind? {v w : Value} (h : RendersTo key context v w) (step : Value.Step) :
    Option.Rel (RendersTo key context) (sourceBehind? key context v step) (w.behind? step) := by
  cases v with
  | object fields =>
      rw [RendersTo, renderValue] at h
      obtain ⟨ws, hws, rfl⟩ := map_eq_ok_iff.mp h
      cases step with
      | field given => exact rel_get?_of_renderFields hws given
      | item index => exact Option.Rel.none
  | _ => exact rel_behind?_of_not_object (by simp) h step

theorem isCanonical_of_sourceBehind? {v u : Value} (hv : v.IsCanonical) {step : Value.Step}
    (hu : sourceBehind? key context v step = some u) : u.IsCanonical := by
  cases v with
  | object fields =>
      cases step with
      | field given =>
          obtain ⟨name, hmem⟩ := mem_of_lastNamed? hu
          exact Value.fieldsCanonical_iff.mp hv.2 _ hmem
      | item index => cases hu
  | _ => exact hv.behind? (show Value.behind? _ step = some u from hu)

/-- Every position of a rendered value is rendered from its source, and where there is a source
there is a position. -/
theorem rendersTo_sourceAt? {v w : Value} (h : RendersTo key context v w)
    (path : List Value.Step) :
    Option.Rel (RendersTo key context) (sourceAt? key context path v) (w.at? path) := by
  induction path generalizing v w with
  | nil => exact Option.Rel.some h
  | cons step path ih =>
      have hstep := rendersTo_sourceBehind? h step
      rw [sourceAt?, Value.at?_cons]
      generalize sourceBehind? key context v step = x at hstep ⊢
      generalize w.behind? step = y at hstep ⊢
      cases hstep with
      | none => exact Option.Rel.none
      | some hxy => exact ih hxy

theorem isCanonical_of_sourceAt? {v u : Value} (hv : v.IsCanonical) {path : List Value.Step}
    (hu : sourceAt? key context path v = some u) : u.IsCanonical := by
  induction path generalizing v with
  | nil =>
      cases hu
      exact hv
  | cons step path ih =>
      obtain ⟨w, hw, hu⟩ := Option.bind_eq_some_iff.mp hu
      exact ih (isCanonical_of_sourceBehind? hv hw) hu

/-- Only an object renders to an object. -/
theorem exists_of_rendersTo_object {v : Value} {ws : List (String × Value)}
    (h : RendersTo key context v (.object ws)) :
    ∃ source, v = .object source ∧ renderFields key context [] source = .ok ws := by
  rw [RendersTo] at h
  cases v with
  | object source =>
      rw [renderValue] at h
      obtain ⟨stored, hstored, heq⟩ := map_eq_ok_iff.mp h
      cases heq
      exact ⟨source, rfl, hstored⟩
  | array items =>
      rw [renderValue] at h
      obtain ⟨_, _, heq⟩ := map_eq_ok_iff.mp h
      cases heq
  | string text =>
      rw [renderValue] at h
      rcases renderString_forms h with ⟨_, heq⟩ | ⟨_, heq⟩ | ⟨_, heq⟩ <;> cases heq
  | null | bool _ | number _ => cases h

/-- Every object of the body of a patch comes from an object of the patch, whose fields are stored
under their rendered names. All of them are kept exactly if no two names render to the same. -/
theorem renderBody_fieldNames {text : String} {skeleton : Value} {fields : List (String × Value)}
    (hread : Json.read? text = some skeleton) (h : renderBody key context text = .ok fields)
    (path : List Value.Step) {ws : List (String × Value)}
    (hws : (Value.object fields).at? path = some (.object ws)) :
    ∃ source, sourceAt? key context path skeleton = some (.object source) ∧
      StoredFields key context source ws := by
  have hrel := rendersTo_sourceAt? (rendersTo_of_renderBody hread h) path
  rw [hws] at hrel
  cases hsource : sourceAt? key context path skeleton with
  | none =>
      rw [hsource] at hrel
      cases hrel
  | some v =>
      rw [hsource] at hrel
      cases hrel with
      | some hv =>
          obtain ⟨source, rfl, hstored⟩ := exists_of_rendersTo_object hv
          have hcanonical := isCanonical_of_sourceAt? (Json.isCanonical_of_read? hread) hsource
          exact ⟨source, rfl, storedFields_of_renderFields hcanonical.1 hstored⟩

/-- Two labels, the name of one of which is a template. -/
def labels : List (String × Value) :=
  [("tuned-0", .string "web"), ("tuned-" ++ assignedCount, .string "db")]

/-- A patch of these labels. -/
def labelsPatch : Value :=
  .object [("labels", .object labels)]

/-- The path to the labels. -/
def labelsPath : List Value.Step :=
  [.field "labels"]

theorem read?_labelsPatch : Json.read? (Json.write labelsPatch) = some labelsPatch := by
  decide +kernel

theorem renderBody_labelsPatch :
    renderBody "patch-0" bareTrial.context (Json.write labelsPatch) =
      .ok [("labels", .object [("tuned-0", .string "db")])] := by
  decide +kernel

theorem sourceAt?_labelsPath :
    sourceAt? "patch-0" bareTrial.context labelsPath labelsPatch = some (.object labels) := by
  decide +kernel

/-- The labels fall together, and the last of them stays. -/
theorem renderBody_fieldNames_labels :
    StoredFields "patch-0" bareTrial.context labels [("tuned-0", .string "db")] := by
  obtain ⟨source, hsource, hstored⟩ :=
    renderBody_fieldNames read?_labelsPatch renderBody_labelsPatch labelsPath rfl
  rw [sourceAt?_labelsPath] at hsource
  cases hsource
  exact hstored

/-- Labels that fall together are not all kept. -/
theorem labels_fall_together : ∃ fields,
    Json.read? (Json.write labelsPatch) = some labelsPatch ∧
      renderBody "patch-0" bareTrial.context (Json.write labelsPatch) = .ok fields ∧
      ¬ ∀ path ws, (Value.object fields).at? path = some (.object ws) →
        ∃ source, sourceAt? "patch-0" bareTrial.context path labelsPatch = some (.object source) ∧
          KeepsAll "patch-0" bareTrial.context source ws := by
  refine ⟨_, read?_labelsPatch, renderBody_labelsPatch, fun hall => ?_⟩
  obtain ⟨source, hsource, hkeeps⟩ := hall labelsPath [("tuned-0", .string "db")] rfl
  rw [sourceAt?_labelsPath] at hsource
  cases hsource
  exact absurd hkeeps.length_eq (by decide)

end Patch

end ClusterTuning
