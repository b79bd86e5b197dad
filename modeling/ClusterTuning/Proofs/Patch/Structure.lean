import ClusterTuning.Proofs.Patch
import ClusterTuning.Proofs.Position
import Mathlib.Data.List.Forall2

/-!
# ClusterTuning.Proofs.Patch.Structure

**What a trial assigns fills strings and never becomes structure.**

A patch that is JSON before it is rendered is rendered value by value, and an expression can
only put a text, a number or a truth value in the place of the string that holds it. Rendering
therefore commutes with every step into the value (`renderValue_behind?`): behind a step stands
the rendering of what stood there. By induction along a path every position of the rendered
value is filled from the same position of the patch (`filled_at?`), so two trials can differ
only where the patch has a string with an expression.

## Main statements

* `filled_at?`: one rendering, position by position.
* `renderBody_alike`: two renderings of one patch, for any two trials.
-/

namespace ClusterTuning

/-! ### Names without expressions -/

namespace Value

mutual

/-- Does no name of a field hold an expression, at any position? -/
def plainNames : Value → Bool
  | .array items => itemsPlainNames items
  | .object fields => fieldsPlainNames fields
  | _ => true

/-- Does no name of a field in any of the items hold an expression? -/
def itemsPlainNames : List Value → Bool
  | [] => true
  | v :: rest => v.plainNames && itemsPlainNames rest

/-- Does no name of the fields, or of a field in any of them, hold an expression? -/
def fieldsPlainNames : List (String × Value) → Bool
  | [] => true
  | (name, v) :: rest =>
    !Patch.holdsExpression name && v.plainNames && fieldsPlainNames rest

end

theorem itemsPlainNames_iff {items : List Value} :
    itemsPlainNames items = true ↔ ∀ v ∈ items, v.plainNames = true := by
  induction items with
  | nil => simp [itemsPlainNames]
  | cons v rest ih => simp [itemsPlainNames, ih]

theorem fieldsPlainNames_iff {fields : List (String × Value)} :
    fieldsPlainNames fields = true ↔
      ∀ field ∈ fields, Patch.holdsExpression field.1 = false ∧ field.2.plainNames = true := by
  induction fields with
  | nil => simp [fieldsPlainNames]
  | cons field rest ih =>
      obtain ⟨name, v⟩ := field
      simp [fieldsPlainNames, ih]

theorem plainNames_behind? {v u : Value} (hv : v.plainNames = true) {step : Step}
    (hu : v.behind? step = some u) : u.plainNames = true := by
  cases v with
  | object fields =>
      cases step with
      | field name => exact (fieldsPlainNames_iff.mp hv _ (Fields.mem_of_get? hu)).2
      | item index => cases hu
  | array items =>
      cases step with
      | field name => cases hu
      | item index => exact itemsPlainNames_iff.mp hv u (List.mem_of_getElem? hu)
  | _ => cases hu

theorem not_holdsExpression_of_plainNames {fields : List (String × Value)}
    (h : (Value.object fields).plainNames = true) :
    ∀ name ∈ Fields.names fields, Patch.holdsExpression name = false := by
  intro name hname
  obtain ⟨field, hfield, rfl⟩ := List.mem_map.mp hname
  exact (fieldsPlainNames_iff.mp h field hfield).1

end Value

namespace Patch

/-! ### Rendering commutes with steps -/

variable {key : String} {context : PatchContext}

/-- The second value is rendered from the first. -/
def RendersTo (key : String) (context : PatchContext) (v w : Value) : Prop :=
  renderValue key context v = .ok w

/-- Items are rendered at their places. -/
theorem renderItems_getElem? {items ws : List Value} (h : renderItems key context items = .ok ws)
    (index : Nat) : Option.Rel (RendersTo key context) items[index]? ws[index]? := by
  induction items generalizing ws index with
  | nil =>
      cases h
      exact Option.Rel.none
  | cons v rest ih =>
      rw [renderItems] at h
      split at h
      · cases h
      rename_i w hw
      obtain ⟨more, hmore, rfl⟩ := map_eq_ok_iff.mp h
      cases index with
      | zero => exact Option.Rel.some hw
      | succ index => exact ih hmore index

theorem length_of_renderItems {items ws : List Value}
    (h : renderItems key context items = .ok ws) : ws.length = items.length := by
  induction items generalizing ws with
  | nil =>
      cases h
      rfl
  | cons v rest ih =>
      rw [renderItems] at h
      split at h
      · cases h
      obtain ⟨more, hmore, rfl⟩ := map_eq_ok_iff.mp h
      rw [List.length_cons, List.length_cons, ih hmore]

theorem renderName_of_plain {name rendered : String} (hplain : holdsExpression name = false)
    (h : renderName key context name = .ok rendered) : rendered = name := by
  rw [renderName, if_neg (by simp [hplain])] at h
  exact (Except.ok.inj h).symm

/-- The name and the value of the second field are rendered from those of the first. -/
structure FieldRendersTo (key : String) (context : PatchContext) (field given : String × Value) :
    Prop where
  /-- The name. -/
  name : renderName key context field.1 = .ok given.1
  /-- The value. -/
  value : RendersTo key context field.2 given.2

/-- Fields are rendered each by itself, and the rendered fields are stored in turn. -/
theorem exists_of_renderFields {fields before ws : List (String × Value)}
    (h : renderFields key context before fields = .ok ws) :
    ∃ rendered, List.Forall₂ (FieldRendersTo key context) fields rendered ∧
      Fields.putAll before rendered = ws := by
  induction fields generalizing before with
  | nil =>
      cases h
      exact ⟨[], List.Forall₂.nil, rfl⟩
  | cons field rest ih =>
      obtain ⟨name, v⟩ := field
      rw [renderFields] at h
      split at h
      · cases h
      rename_i given hname
      split at h
      · cases h
      rename_i w hvalue
      obtain ⟨rendered, hrendered, hstored⟩ := ih h
      exact ⟨(given, w) :: rendered, List.Forall₂.cons ⟨hname, hvalue⟩ hrendered, hstored⟩

/-- Fields whose names hold no expression keep them. -/
theorem forall₂_of_plain {fields rendered : List (String × Value)}
    (hplain : ∀ name ∈ Fields.names fields, holdsExpression name = false)
    (h : List.Forall₂ (FieldRendersTo key context) fields rendered) :
    List.Forall₂ (fun f g => f.1 = g.1 ∧ RendersTo key context f.2 g.2) fields rendered := by
  induction h with
  | nil => exact List.Forall₂.nil
  | cons hfield _ ih =>
      have hsame := renderName_of_plain (hplain _ List.mem_cons_self) hfield.name
      exact List.Forall₂.cons ⟨hsame.symm, hfield.value⟩
        (ih fun name hname => hplain name (List.mem_cons_of_mem _ hname))

theorem names_eq_of_forall₂ {R : Value → Value → Prop} {fields ws : List (String × Value)}
    (h : List.Forall₂ (fun f g => f.1 = g.1 ∧ R f.2 g.2) fields ws) :
    Fields.names ws = Fields.names fields := by
  induction h with
  | nil => rfl
  | cons hfield _ ih => exact congrArg₂ List.cons hfield.1.symm ih

theorem get?_of_forall₂ {R : Value → Value → Prop} {fields ws : List (String × Value)}
    (h : List.Forall₂ (fun f g => f.1 = g.1 ∧ R f.2 g.2) fields ws) (name : String) :
    Option.Rel R (Fields.get? name fields) (Fields.get? name ws) := by
  induction h with
  | nil => exact Option.Rel.none
  | cons hfield _ ih =>
      obtain ⟨hkey, hvalue⟩ := hfield
      rw [Fields.get?, Fields.get?, ← hkey]
      split
      · exact Option.Rel.some hvalue
      · exact ih

/-- With plain names the fields stay what they are in number, order and name, and each value is
rendered by itself. -/
theorem forall₂_of_renderFields {fields ws : List (String × Value)}
    (hcanonical : Value.IsCanonical (.object fields))
    (hplain : (Value.object fields).plainNames = true)
    (h : renderFields key context [] fields = .ok ws) :
    List.Forall₂ (fun f g => f.1 = g.1 ∧ RendersTo key context f.2 g.2) fields ws := by
  obtain ⟨rendered, hrendered, hstored⟩ := exists_of_renderFields h
  have hsame := forall₂_of_plain (Value.not_holdsExpression_of_plainNames hplain) hrendered
  -- the names go up as they did before, so the fields are stored as they come
  have hordered : Fields.Ordered rendered := by
    rw [Fields.Ordered, names_eq_of_forall₂ hsame]
    exact hcanonical.1
  have hws : rendered = ws := (Fields.ofList_eq_self hordered).symm.trans hstored
  rw [← hws]
  exact hsame

/-- Behind a step into anything but an object stands the rendering of what stood behind it. -/
theorem rel_behind?_of_not_object {v w : Value} (hv : ∀ fields, v ≠ .object fields)
    (h : RendersTo key context v w) (step : Value.Step) :
    Option.Rel (RendersTo key context) (v.behind? step) (w.behind? step) := by
  rw [RendersTo] at h
  cases v with
  | object fields => exact absurd rfl (hv fields)
  | string text =>
      rw [renderValue] at h
      rw [Value.IsScalar.behind? (renderString_forms h)]
      exact Option.Rel.none
  | array items =>
      rw [renderValue] at h
      obtain ⟨ws, hws, rfl⟩ := map_eq_ok_iff.mp h
      cases step with
      | field name => exact Option.Rel.none
      | item index => exact renderItems_getElem? hws index
  | null | bool _ | number _ =>
      cases h
      exact Option.Rel.none

/-- Behind a step stands the rendering of what stood behind it. -/
theorem renderValue_behind? {v w : Value} (hcanonical : v.IsCanonical) (hplain : v.plainNames = true)
    (h : RendersTo key context v w) (step : Value.Step) :
    Option.Rel (RendersTo key context) (v.behind? step) (w.behind? step) := by
  cases v with
  | object fields =>
      rw [RendersTo, renderValue] at h
      obtain ⟨ws, hws, rfl⟩ := map_eq_ok_iff.mp h
      cases step with
      | field name => exact get?_of_forall₂ (forall₂_of_renderFields hcanonical hplain hws) name
      | item index => exact Option.Rel.none
  | _ => exact rel_behind?_of_not_object (by simp) h step

/-! ### Position by position -/

/-- Nothing, or a string, a number or a truth value that is no template. -/
def IsConstant (v : Value) : Prop :=
  v = .null ∨ v.IsScalar ∧ ∀ text, v = .string text → holdsExpression text = false

/-- What a position of a patch becomes when it is rendered. -/
inductive Filled : Option Value → Option Value → Prop where
  /-- Nothing comes where nothing was. -/
  | nowhere : Filled none none
  /-- A string with an expression becomes a text, a number or a truth value. -/
  | expression {text : String} {w : Value} (h : holdsExpression text = true) (hw : w.IsScalar) :
      Filled (some (.string text)) (some w)
  /-- Any other value that is no list and no object stays. -/
  | constant {v : Value} (h : IsConstant v) : Filled (some v) (some v)
  /-- A list becomes a list of the same length. -/
  | array {items ws : List Value} (h : ws.length = items.length) :
      Filled (some (.array items)) (some (.array ws))
  /-- An object becomes an object with the same names. -/
  | object {fields ws : List (String × Value)} (h : Fields.names ws = Fields.names fields) :
      Filled (some (.object fields)) (some (.object ws))

/-- Where names are plain, a rendered value has the structure of the one that it was rendered of,
and only strings with an expression differ. -/
theorem filled_of_rendersTo {v w : Value} (hcanonical : v.IsCanonical) (hplain : v.plainNames = true)
    (h : RendersTo key context v w) : Filled (some v) (some w) := by
  rw [RendersTo] at h
  cases v with
  | string text =>
      rw [renderValue] at h
      cases htext : holdsExpression text with
      | true => exact Filled.expression htext (renderString_forms h)
      | false =>
          rw [renderString, if_neg (by simp [htext])] at h
          cases h
          refine Filled.constant (Or.inr ⟨Or.inr (Or.inr ⟨text, rfl⟩), ?_⟩)
          intro other hother
          cases hother
          exact htext
  | array items =>
      rw [renderValue] at h
      obtain ⟨ws, hws, rfl⟩ := map_eq_ok_iff.mp h
      exact Filled.array (length_of_renderItems hws)
  | object fields =>
      rw [renderValue] at h
      obtain ⟨ws, hws, rfl⟩ := map_eq_ok_iff.mp h
      exact Filled.object (names_eq_of_forall₂ (forall₂_of_renderFields hcanonical hplain hws))
  | null =>
      cases h
      exact Filled.constant (Or.inl rfl)
  | bool b =>
      cases h
      refine Filled.constant (Or.inr ⟨Or.inr (Or.inl ⟨b, rfl⟩), ?_⟩)
      intro text htext
      cases htext
  | number n =>
      cases h
      refine Filled.constant (Or.inr ⟨Or.inl ⟨n, rfl⟩, ?_⟩)
      intro text htext
      cases htext

/-- Every position of a rendered value is filled from the same position of the patch. -/
theorem filled_at? {v w : Value} (hcanonical : v.IsCanonical) (hplain : v.plainNames = true)
    (h : RendersTo key context v w) (path : List Value.Step) :
    Filled (v.at? path) (w.at? path) := by
  induction path generalizing v w with
  | nil => exact filled_of_rendersTo hcanonical hplain h
  | cons step path ih =>
      have hstep := renderValue_behind? hcanonical hplain h step
      rw [Value.at?_cons, Value.at?_cons]
      cases hv : v.behind? step with
      | none =>
          rw [hv] at hstep
          generalize w.behind? step = x at hstep ⊢
          cases hstep
          exact Filled.nowhere
      | some u =>
          rw [hv] at hstep
          generalize w.behind? step = x at hstep ⊢
          cases hstep with
          | some hux => exact ih (hcanonical.behind? hv) (Value.plainNames_behind? hplain hv) hux

/-! ### Two trials -/

/-- What a position of a patch becomes in two renderings. -/
inductive Alike : Option Value → Option Value → Option Value → Prop where
  /-- Nothing comes where nothing was. -/
  | nowhere : Alike none none none
  /-- A string with an expression becomes a text, a number or a truth value in each. -/
  | expression {text : String} {a b : Value} (h : holdsExpression text = true)
      (ha : a.IsScalar) (hb : b.IsScalar) : Alike (some (.string text)) (some a) (some b)
  /-- Any other value that is no list and no object stays in both. -/
  | constant {v : Value} (h : IsConstant v) : Alike (some v) (some v) (some v)
  /-- A list becomes lists of its length. -/
  | array {items as bs : List Value} (ha : as.length = items.length)
      (hb : bs.length = items.length) :
      Alike (some (.array items)) (some (.array as)) (some (.array bs))
  /-- An object becomes objects with its names. -/
  | object {fields as bs : List (String × Value)} (ha : Fields.names as = Fields.names fields)
      (hb : Fields.names bs = Fields.names fields) :
      Alike (some (.object fields)) (some (.object as)) (some (.object bs))

theorem not_isConstant_of_holdsExpression {text : String} (h : holdsExpression text = true) :
    ¬ IsConstant (.string text) := by
  rintro (hnull | ⟨-, hplain⟩)
  · cases hnull
  · exact absurd (hplain text rfl) (by simp [h])

theorem not_isConstant_array (items : List Value) : ¬ IsConstant (.array items) := by
  rintro (h | ⟨⟨_, h⟩ | ⟨_, h⟩ | ⟨_, h⟩, -⟩) <;> cases h

theorem not_isConstant_object (fields : List (String × Value)) : ¬ IsConstant (.object fields) := by
  rintro (h | ⟨⟨_, h⟩ | ⟨_, h⟩ | ⟨_, h⟩, -⟩) <;> cases h

/-- Two positions that are filled from one are alike. -/
theorem Filled.alike {v a b : Option Value} (ha : Filled v a) (hb : Filled v b) : Alike v a b := by
  -- the value of the patch decides the case, as nothing else is constant
  cases ha with
  | nowhere =>
      cases hb
      exact Alike.nowhere
  | expression htext hscalar =>
      cases hb with
      | expression _ hother => exact Alike.expression htext hscalar hother
      | constant h => exact absurd h (not_isConstant_of_holdsExpression htext)
  | constant h =>
      cases hb with
      | expression htext _ => exact absurd h (not_isConstant_of_holdsExpression htext)
      | constant _ => exact Alike.constant h
      | array _ => exact absurd h (not_isConstant_array _)
      | object _ => exact absurd h (not_isConstant_object _)
  | array hlength =>
      cases hb with
      | constant h => exact absurd h (not_isConstant_array _)
      | array hother => exact Alike.array hlength hother
  | object hnames =>
      cases hb with
      | constant h => exact absurd h (not_isConstant_object _)
      | object hother => exact Alike.object hnames hother

/-- The body of a patch that is JSON is rendered from that JSON. -/
theorem rendersTo_of_renderBody {text : String} {skeleton : Value} {fields : List (String × Value)}
    (hread : Json.read? text = some skeleton) (h : renderBody key context text = .ok fields) :
    RendersTo key context skeleton (.object fields) := by
  simp only [renderBody, hread] at h
  split at h
  · cases h
  · rename_i rendered hrendered
    cases h
    exact hrendered
  · cases h

/-- The bodies that two trials make of a patch differ in no name and in no length, and in no value
but those that stand for a string with an expression; these are texts, numbers or truth values. -/
theorem renderBody_alike {text : String} {skeleton : Value}
    (hread : Json.read? text = some skeleton) (hplain : skeleton.plainNames = true)
    {one other : Trial} {a b : List (String × Value)}
    (ha : renderBody key one.context text = .ok a)
    (hb : renderBody key other.context text = .ok b) (path : List Value.Step) :
    Alike (skeleton.at? path) ((Value.object a).at? path) ((Value.object b).at? path) := by
  have hcanonical := Json.isCanonical_of_read? hread
  have hone := filled_at? hcanonical hplain (rendersTo_of_renderBody hread ha) path
  have hother := filled_at? hcanonical hplain (rendersTo_of_renderBody hread hb) path
  exact hone.alike hother

/-- A string that gives out all that a trial assigns. -/
def everything : String :=
  "\x7b\x7b Values \x7d\x7d"

/-- A patch with such a string in a list. -/
def everythingPatch : String :=
  "\x7b\"spec\":[1,\"" ++ everything ++ "\"]\x7d"

/-- A trial that assigns braces, brackets and quotes. -/
def bracesTrial : Trial :=
  ⟨"t-2", "", 2, [("a", .string "\"]\x7d,\x7b\x7b"), ("b", .array [.object []])]⟩

/-- What is assigned stays inside one string, whatever it is. -/
theorem renderBody_alike_braces : ∃ a b,
    renderBody "patch-0" (Trial.context ⟨"t-1", "", 1, []⟩) everythingPatch = .ok a ∧
      renderBody "patch-0" bracesTrial.context everythingPatch = .ok b ∧ a ≠ b ∧
      Alike (some (.string everything)) ((Value.object a).at? [.field "spec", .item 1])
        ((Value.object b).at? [.field "spec", .item 1]) := by
  have hread : Json.read? everythingPatch =
      some (.object [("spec", .array [.number (.int 1), .string everything])]) := by
    decide +kernel
  have ha : renderBody "patch-0" (Trial.context ⟨"t-1", "", 1, []⟩) everythingPatch =
      .ok [("spec", .array [.number (.int 1), .string "\x7b\x7d"])] := by
    decide +kernel
  have hb : renderBody "patch-0" bracesTrial.context everythingPatch =
      .ok [("spec", .array [.number (.int 1),
        .string "\x7b\"a\": \"\\\"]\x7d,\x7b\x7b\", \"b\": [\x7b\x7d]\x7d"])] := by
    decide +kernel
  have halike := renderBody_alike hread (by decide +kernel) ha hb [.field "spec", .item 1]
  exact ⟨_, _, ha, hb, by decide, halike⟩

end Patch

end ClusterTuning
