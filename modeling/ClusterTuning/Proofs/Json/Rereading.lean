import ClusterTuning.Proofs.Canonical
import ClusterTuning.Proofs.Json.Scalars

/-!
# ClusterTuning.Proofs.Json.Rereading

**What is written reads back, its numbers aside.**

The reader yields canonical values, and of a canonical value that was written it yields the
value again, as far as numbers are not concerned: a number without a JSON form is written as
nothing, and a fraction may come back as a neighbour of what it was. Texts, names of fields
and the order of items are exact, so everything that is decided by texts is decided alike
before and after.

## Main statements

* `isCanonical_of_read?`: what is read is canonical.
* `numberless_of_read?_write`: a written value that is read at all reads back.
-/

namespace ClusterTuning

namespace Json

/-! ### One item, one field -/

/-- Items are a value, and then the bracket that closes them or a comma and more items. -/
theorem readItems?_succ_eq_some {fuel depth : Nat} {s left : List Char} {vs : List Value}
    (h : readItems? (fuel + 1) depth s = some (vs, left)) :
    ∃ v behind, readValue? fuel depth s = some (v, behind) ∧
      ((skipGap behind = ']' :: left ∧ vs = [v]) ∨
        ∃ text more, skipGap behind = ',' :: text ∧
          readItems? fuel depth text = some (more, left) ∧ vs = v :: more) := by
  rw [readItems?] at h
  split at h
  · cases h
  rename_i v behind hvalue
  refine ⟨v, behind, hvalue, ?_⟩
  split at h
  · rename_i hskip
    cases h
    exact Or.inl ⟨hskip, rfl⟩
  · rename_i text hskip
    simp only [Option.map_eq_some_iff, Prod.mk.injEq] at h
    obtain ⟨⟨more, _⟩, hitems, rfl, rfl⟩ := h
    exact Or.inr ⟨text, more, hskip, hitems, rfl⟩
  · cases h

/-- Fields are a name, a colon and a value, and then the brace that closes them or a comma and more
fields. -/
theorem readFields?_succ_eq_some {fuel depth : Nat} {s left : List Char}
    {fs : List (String × Value)} (h : readFields? (fuel + 1) depth s = some (fs, left)) :
    ∃ name key colon text v behind, skipGap s = '"' :: name ∧
      readStringRest? (name.length + 1) name = some (key, colon) ∧ skipGap colon = ':' :: text ∧
      readValue? fuel depth text = some (v, behind) ∧
      ((skipGap behind = '}' :: left ∧ fs = [(String.ofList key, v)]) ∨
        ∃ text more, skipGap behind = ',' :: text ∧
          readFields? fuel depth text = some (more, left) ∧
          fs = (String.ofList key, v) :: more) := by
  rw [readFields?] at h
  split at h
  case h_2 => cases h
  rename_i name hname
  split at h
  · cases h
  rename_i key colon hkey
  split at h
  case h_2 => cases h
  rename_i text hcolon
  split at h
  · cases h
  rename_i v behind hvalue
  refine ⟨name, key, colon, text, v, behind, hname, hkey, hcolon, hvalue, ?_⟩
  split at h
  · rename_i hskip
    cases h
    exact Or.inl ⟨hskip, rfl⟩
  · rename_i text hskip
    simp only [Option.map_eq_some_iff, Prod.mk.injEq] at h
    obtain ⟨⟨more, _⟩, hfields, rfl, rfl⟩ := h
    exact Or.inr ⟨text, more, hskip, hfields, rfl⟩
  · cases h

/-! ### What is read is canonical -/

/-- What the three readers yield with the given fuel is canonical. -/
structure ReadsCanonical (fuel : Nat) : Prop where
  /-- Values are. -/
  value : ∀ {depth s v rest}, readValue? fuel depth s = some (v, rest) → v.IsCanonical
  /-- Items are. -/
  items : ∀ {depth s vs rest}, readItems? fuel depth s = some (vs, rest) →
    Value.ItemsCanonical vs
  /-- The values of fields are. -/
  fields : ∀ {depth s fs rest}, readFields? fuel depth s = some (fs, rest) →
    Value.FieldsCanonical fs

/-- A value is canonical if its items and fields are: an object is read with its fields in order and
no name twice. -/
theorem ReadsCanonical.value_succ {fuel : Nat} (ih : ReadsCanonical fuel) {depth : Nat}
    {s rest : List Char} {v : Value} (h : readValue? (fuel + 1) depth s = some (v, rest)) :
    v.IsCanonical := by
  rw [readValue?] at h
  split at h
  · simp only [Option.map_eq_some_iff, Prod.mk.injEq] at h
    obtain ⟨_, _, rfl, _⟩ := h
    exact Value.isCanonical_string _
  · split at h
    · cases h
    split at h
    · cases h
      exact trivial
    · simp only [Option.map_eq_some_iff, Prod.mk.injEq] at h
      obtain ⟨_, hitems, rfl, _⟩ := h
      exact ih.items hitems
  · split at h
    · cases h
    split at h
    · cases h
      exact ⟨Fields.ordered_nil, trivial⟩
    · simp only [Option.map_eq_some_iff, Prod.mk.injEq] at h
      obtain ⟨_, hfields, rfl, _⟩ := h
      exact Value.isCanonical_object_ofList (ih.fields hfields)
  · simp only [Option.map_eq_some_iff, Prod.mk.injEq] at h
    obtain ⟨_, _, rfl, _⟩ := h
    exact Value.isCanonical_number _
  · cases h
    exact Value.isCanonical_bool _
  · cases h
    exact Value.isCanonical_bool _
  · cases h
    exact Value.isCanonical_null
  · simp only [Option.map_eq_some_iff, Prod.mk.injEq] at h
    obtain ⟨_, _, rfl, _⟩ := h
    exact Value.isCanonical_number _

theorem ReadsCanonical.items_succ {fuel : Nat} (ih : ReadsCanonical fuel) {depth : Nat}
    {s rest : List Char} {vs : List Value}
    (h : readItems? (fuel + 1) depth s = some (vs, rest)) : Value.ItemsCanonical vs := by
  obtain ⟨v, behind, hvalue, ⟨_, rfl⟩ | ⟨_, more, _, hmore, rfl⟩⟩ := readItems?_succ_eq_some h
  · exact ⟨ih.value hvalue, trivial⟩
  · exact ⟨ih.value hvalue, ih.items hmore⟩

theorem ReadsCanonical.fields_succ {fuel : Nat} (ih : ReadsCanonical fuel) {depth : Nat}
    {s rest : List Char} {fs : List (String × Value)}
    (h : readFields? (fuel + 1) depth s = some (fs, rest)) : Value.FieldsCanonical fs := by
  obtain ⟨_, _, _, _, v, _, _, _, _, hvalue, ⟨_, rfl⟩ | ⟨_, more, _, hmore, rfl⟩⟩ :=
    readFields?_succ_eq_some h
  · exact ⟨ih.value hvalue, trivial⟩
  · exact ⟨ih.value hvalue, ih.fields hmore⟩

theorem readsCanonical (fuel : Nat) : ReadsCanonical fuel := by
  induction fuel with
  | zero =>
      refine ⟨fun h => ?_, fun h => ?_, fun h => ?_⟩
      · rw [readValue?] at h; cases h
      · rw [readItems?] at h; cases h
      · rw [readFields?] at h; cases h
  | succ fuel ih => exact ⟨ih.value_succ, ih.items_succ, ih.fields_succ⟩

/-- What is read from a text is canonical. -/
theorem isCanonical_of_read? {text : String} {v : Value} (h : read? text = some v) :
    v.IsCanonical := by
  rw [read?, readChars?] at h
  split at h
  · cases h
  rename_i hvalue
  split at h
  · cases h
    exact (readsCanonical _).value hvalue
  · cases h

end Json

/-! ### Values without their numbers -/

namespace Value

mutual

/-- The value with nothing in the place of every number. -/
def numberless : Value → Value
  | .number _ => .null
  | .array items => .array (itemsNumberless items)
  | .object fields => .object (fieldsNumberless fields)
  | v => v

/-- Items without their numbers. -/
def itemsNumberless : List Value → List Value
  | [] => []
  | v :: rest => numberless v :: itemsNumberless rest

/-- Fields without their numbers. -/
def fieldsNumberless : List (String × Value) → List (String × Value)
  | [] => []
  | (key, v) :: rest => (key, numberless v) :: fieldsNumberless rest

end

@[simp] theorem text?_numberless (v : Value) : v.numberless.text? = v.text? := by
  cases v <;> rfl

@[simp] theorem fieldsGet?_numberless (key : String) (fields : List (String × Value)) :
    Fields.get? key (fieldsNumberless fields) = (Fields.get? key fields).map numberless := by
  induction fields with
  | nil => rfl
  | cons field rest ih =>
      rw [fieldsNumberless, Fields.get?, Fields.get?]
      split
      · rfl
      · exact ih

@[simp] theorem get?_numberless (key : String) (v : Value) :
    v.numberless.get? key = (v.get? key).map numberless := by
  cases v with
  | object fields => exact fieldsGet?_numberless key fields
  | _ => rfl

theorem names_fieldsNumberless (fields : List (String × Value)) :
    Fields.names (fieldsNumberless fields) = Fields.names fields := by
  induction fields with
  | nil => rfl
  | cons field rest ih => exact congrArg (field.1 :: ·) ih

/-- Fields that differ only in numbers have the same names. -/
theorem ordered_of_fieldsNumberless {a b : List (String × Value)}
    (h : fieldsNumberless a = fieldsNumberless b) (hb : Fields.Ordered b) : Fields.Ordered a := by
  rw [Fields.Ordered, ← names_fieldsNumberless, h, names_fieldsNumberless]
  exact hb

end Value

namespace Json

/-! ### Readers on written text -/

theorem readValue?_string {fuel depth : Nat} (text : String) (rest : List Char) :
    readValue? (fuel + 1) depth (writeString text ++ rest) = some (.string text, rest) := by
  obtain ⟨body, hbody, hread⟩ := readStringRest?_writeString text rest
  rw [hbody, readValue?, skipGap_cons rfl]
  simp only [hread, Option.map_some, String.ofList_toList]

/-- An opening bracket is read as a list, unless lists are nested too deeply. -/
theorem readValue?_array {fuel depth : Nat} (text : List Char) :
    readValue? (fuel + 1) depth ('[' :: text) =
      if depth ≤ 1 then none
      else
        match skipGap text with
        | ']' :: rest => some (.array [], rest)
        | _ =>
          (readItems? fuel (depth - 1) text).map fun (items, rest) =>
            (.array items, rest) := by
  rw [readValue?, skipGap_cons rfl]
  rfl

/-- An opening brace is read as an object, unless values are nested too deeply. -/
theorem readValue?_object {fuel depth : Nat} (text : List Char) :
    readValue? (fuel + 1) depth ('{' :: text) =
      if depth ≤ 1 then none
      else
        match skipGap text with
        | '}' :: rest => some (.object [], rest)
        | _ =>
          (readFields? fuel (depth - 1) text).map fun (fields, rest) =>
            (.object (Fields.ofList fields), rest) := by
  rw [readValue?, skipGap_cons rfl]
  rfl

/-- What starts with a character of numbers is read as a number, and only such characters are taken.
-/
theorem readValue?_numeral {fuel depth : Nat} {c : Char} (hc : isNumeral c = true)
    {text rest : List Char} {v : Value}
    (h : readValue? (fuel + 1) depth (c :: text) = some (v, rest)) :
    (∃ n, v = .number n) ∧ LeavesOf (c :: text) rest := by
  rw [readValue?, skipGap_cons (isGap_of_isNumeral hc)] at h
  split at h
  all_goals rename_i htext
  all_goals try
    obtain ⟨rfl, rfl⟩ := List.cons.inj htext
  · simp [isNumeral, Decimal.isDigit] at hc
  · simp [isNumeral, Decimal.isDigit] at hc
  · simp [isNumeral, Decimal.isDigit] at hc
  · simp only [Option.map_eq_some_iff, Prod.mk.injEq] at h
    obtain ⟨⟨n, rest⟩, hread, rfl, rfl⟩ := h
    exact ⟨⟨n, rfl⟩, (leavesOf_readNumber? hread).cons hc⟩
  · simp [isNumeral, Decimal.isDigit] at hc
  · simp [isNumeral, Decimal.isDigit] at hc
  · simp [isNumeral, Decimal.isDigit] at hc
  · simp only [Option.map_eq_some_iff, Prod.mk.injEq] at h
    obtain ⟨⟨n, rest⟩, hread, rfl, rfl⟩ := h
    exact ⟨⟨n, rfl⟩, leavesOf_readNumber? hread⟩

/-- The first character of a written value is no gap and closes nothing. -/
theorem writeChars_forms (v : Value) :
    ∃ c text, writeChars v = c :: text ∧ isGap c = false ∧ c ≠ ']' := by
  cases v with
  | null => exact ⟨'n', ['u', 'l', 'l'], rfl, rfl, by decide⟩
  | bool b =>
      cases b with
      | true => exact ⟨'t', ['r', 'u', 'e'], rfl, rfl, by decide⟩
      | false => exact ⟨'f', ['a', 'l', 's', 'e'], rfl, rfl, by decide⟩
  | number n =>
      rw [writeChars]
      rcases writeNumber_forms n with ⟨hne, hall⟩ | hnull
      · obtain ⟨c, text, htext⟩ := List.exists_cons_of_ne_nil hne
        have hc := hall c (htext ▸ List.mem_cons_self)
        refine ⟨c, text, htext, isGap_of_isNumeral hc, ?_⟩
        rintro rfl
        cases hc
      · exact ⟨'n', ['u', 'l', 'l'], hnull, rfl, by decide⟩
  | string text => exact ⟨'"', _, rfl, rfl, by decide⟩
  | array items => exact ⟨'[', _, rfl, rfl, by decide⟩
  | object fields => exact ⟨'{', _, rfl, rfl, by decide⟩

@[simp] theorem writeItems_singleton (v : Value) : writeItems [v] = writeChars v := by
  simp [writeItems]

@[simp] theorem writeFields_singleton (key : String) (v : Value) :
    writeFields [(key, v)] = writeString key ++ ':' :: writeChars v := by
  simp [writeFields]

/-- Written items never start with the bracket that would close them. -/
theorem skipGap_writeItems (v : Value) (items : List Value) (s rest : List Char) :
    skipGap (writeItems (v :: items) ++ s) ≠ ']' :: rest := by
  obtain ⟨c, text, htext, hgap, hc⟩ := writeChars_forms v
  have hopens : ∃ more, writeItems (v :: items) = c :: more := by
    cases items with
    | nil => exact ⟨text, by rw [writeItems_singleton, htext]⟩
    | cons u items =>
        exact ⟨_, by
          rw [writeItems, htext, List.cons_append]
          exact List.cons_ne_nil _ _⟩
  obtain ⟨more, hmore⟩ := hopens
  rw [hmore, List.cons_append, skipGap_cons hgap]
  exact fun h => hc (List.cons.inj h).1

theorem skipGap_writeFields (field : String × Value) (fields : List (String × Value))
    (s rest : List Char) : skipGap (writeFields (field :: fields) ++ s) ≠ '}' :: rest := by
  obtain ⟨key, v⟩ := field
  have hopens : ∃ more, writeFields ((key, v) :: fields) = '"' :: more := by
    cases fields with
    | nil => exact ⟨_, by rw [writeFields_singleton, writeString, List.cons_append]⟩
    | cons field fields =>
        exact ⟨_, by
          rw [writeFields, writeString, List.cons_append]
          exact List.cons_ne_nil _ _⟩
  obtain ⟨more, hmore⟩ := hopens
  rw [hmore, List.cons_append, skipGap_cons rfl]
  exact fun h => absurd (List.cons.inj h).1 (by decide)

theorem closes_comma (text : List Char) : Closes (',' :: text) := by
  simp [Closes]

theorem closes_bracket (text : List Char) : Closes (']' :: text) := by
  simp [Closes]

theorem closes_brace (text : List Char) : Closes ('}' :: text) := by
  simp [Closes]

/-- A written name reads back, and behind its colon stands what was written there. -/
theorem eq_of_readStringRest?_name {key : String} {s name k colon text : List Char}
    (hname : skipGap (writeString key ++ ':' :: s) = '"' :: name)
    (hkey : readStringRest? (name.length + 1) name = some (k, colon))
    (hcolon : skipGap colon = ':' :: text) : String.ofList k = key ∧ text = s := by
  obtain ⟨body, hbody, hread⟩ := readStringRest?_writeString key (':' :: s)
  rw [hbody, skipGap_cons rfl, List.cons.injEq] at hname
  obtain ⟨-, rfl⟩ := hname
  rw [hread] at hkey
  obtain ⟨rfl, rfl⟩ := Prod.mk.inj (Option.some.inj hkey)
  rw [skipGap_cons rfl, List.cons.injEq] at hcolon
  exact ⟨String.ofList_toList, hcolon.2.symm⟩

/-! ### Written values read back

A reader can stop too early or too late only at a number, whose text has no end of its own.
Behind a written value stands something that closes it, and the reader that goes on finds
such a thing too, so it has stopped exactly there (`eq_of_leavesOf`). -/

mutual

/-- A written value that is read at all is read as a value that differs in numbers at most, and what
follows it is left. The induction is on the value, and what may follow is any text that closes it:
without that a number would run on. -/
theorem readValue?_writeChars : ∀ (v : Value), v.IsCanonical →
    ∀ {fuel depth : Nat} {rest left : List Char} {w : Value}, Closes rest →
      Closes (skipGap left) → readValue? fuel depth (writeChars v ++ rest) = some (w, left) →
        w.numberless = v.numberless ∧ left = rest
  | v, hv, 0, _, _, _, _, _, _, h => by rw [readValue?] at h; cases h
  | .null, hv, fuel + 1, depth, rest, left, w, _, _, h => by
      obtain ⟨rfl, rfl⟩ := Prod.mk.inj (Option.some.inj h)
      exact ⟨rfl, rfl⟩
  | .bool true, hv, fuel + 1, depth, rest, left, w, _, _, h => by
      obtain ⟨rfl, rfl⟩ := Prod.mk.inj (Option.some.inj h)
      exact ⟨rfl, rfl⟩
  | .bool false, hv, fuel + 1, depth, rest, left, w, _, _, h => by
      obtain ⟨rfl, rfl⟩ := Prod.mk.inj (Option.some.inj h)
      exact ⟨rfl, rfl⟩
  | .number n, hv, fuel + 1, depth, rest, left, w, hrest, hleft, h => by
      rw [writeChars] at h
      rcases writeNumber_forms n with hnumeric | hnull
      · obtain ⟨c, text, htext⟩ := List.exists_cons_of_ne_nil hnumeric.1
        have hc := hnumeric.2 c (htext ▸ List.mem_cons_self)
        rw [htext] at h hnumeric
        obtain ⟨⟨m, rfl⟩, hleaves⟩ := readValue?_numeral hc h
        -- only characters of numbers were taken, and none of them is left
        exact ⟨rfl, eq_of_leavesOf hnumeric hrest hleft hleaves⟩
      · rw [hnull] at h
        obtain ⟨rfl, rfl⟩ := Prod.mk.inj (Option.some.inj h)
        exact ⟨rfl, rfl⟩
  | .string text, hv, fuel + 1, depth, rest, left, w, _, _, h => by
      rw [writeChars, readValue?_string] at h
      obtain ⟨rfl, rfl⟩ := Prod.mk.inj (Option.some.inj h)
      exact ⟨rfl, rfl⟩
  | .array [], hv, fuel + 1, depth, rest, left, w, _, _, h => by
      rw [writeChars, writeItems, List.nil_append, List.cons_append, readValue?_array] at h
      split at h
      · cases h
      · obtain ⟨rfl, rfl⟩ := Prod.mk.inj (Option.some.inj h)
        exact ⟨rfl, rfl⟩
  | .array (v :: items), hv, fuel + 1, depth, rest, left, w, _, _, h => by
      rw [writeChars, List.cons_append, List.append_assoc, readValue?_array] at h
      split at h
      · cases h
      split at h
      · rename_i hskip
        exact absurd hskip (skipGap_writeItems v items _ _)
      · simp only [Option.map_eq_some_iff, Prod.mk.injEq] at h
        obtain ⟨⟨ws, left⟩, hitems, rfl, rfl⟩ := h
        obtain ⟨hws, rfl⟩ := readItems?_writeItems (v :: items) (List.cons_ne_nil _ _) hv hitems
        exact ⟨congrArg Value.array hws, rfl⟩
  | .object [], hv, fuel + 1, depth, rest, left, w, _, _, h => by
      rw [writeChars, writeFields, List.nil_append, List.cons_append, readValue?_object] at h
      split at h
      · cases h
      · obtain ⟨rfl, rfl⟩ := Prod.mk.inj (Option.some.inj h)
        exact ⟨rfl, rfl⟩
  | .object (field :: fields), hv, fuel + 1, depth, rest, left, w, _, _, h => by
      rw [writeChars, List.cons_append, List.append_assoc, readValue?_object] at h
      split at h
      · cases h
      split at h
      · rename_i hskip
        exact absurd hskip (skipGap_writeFields field fields _ _)
      · simp only [Option.map_eq_some_iff, Prod.mk.injEq] at h
        obtain ⟨⟨ws, left⟩, hfields, rfl, rfl⟩ := h
        obtain ⟨hws, rfl⟩ :=
          readFields?_writeFields (field :: fields) (List.cons_ne_nil _ _) hv.2 hfields
        refine ⟨congrArg Value.object ?_, rfl⟩
        rw [Fields.ofList_eq_self (Value.ordered_of_fieldsNumberless hws hv.1), hws]

/-- The same for items up to their closing bracket. -/
theorem readItems?_writeItems : ∀ (items : List Value), items ≠ [] →
    Value.ItemsCanonical items → ∀ {fuel depth : Nat} {rest left : List Char} {ws : List Value},
      readItems? fuel depth (writeItems items ++ ']' :: rest) = some (ws, left) →
        Value.itemsNumberless ws = Value.itemsNumberless items ∧ left = rest
  | [], hne, _, _, _, _, _, _, _ => absurd rfl hne
  | _ :: _, _, _, 0, _, _, _, _, h => by rw [readItems?] at h; cases h
  | [v], _, hitems, fuel + 1, depth, rest, left, ws, h => by
      rw [writeItems_singleton] at h
      obtain ⟨w, behind, hvalue, ⟨hskip, rfl⟩ | ⟨_, _, hskip, -⟩⟩ := readItems?_succ_eq_some h
      -- behind the last item stands the bracket, and no comma
      · obtain ⟨hw, rfl⟩ := readValue?_writeChars v hitems.1 (closes_bracket _)
          (hskip ▸ closes_bracket _) hvalue
        rw [skipGap_cons rfl, List.cons.injEq] at hskip
        exact ⟨congrArg (fun u => [u]) hw, hskip.2.symm⟩
      · obtain ⟨-, rfl⟩ := readValue?_writeChars v hitems.1 (closes_bracket _)
          (hskip ▸ closes_comma _) hvalue
        rw [skipGap_cons rfl, List.cons.injEq] at hskip
        exact absurd hskip.1 (by decide)
  | v :: u :: items, _, hitems, fuel + 1, depth, rest, left, ws, h => by
      rw [writeItems, List.append_assoc, List.cons_append] at h
      obtain ⟨w, behind, hvalue, ⟨hskip, -⟩ | ⟨text, more, hskip, hmore, rfl⟩⟩ :=
        readItems?_succ_eq_some h
      -- behind any other item stands a comma, and not yet the bracket
      · obtain ⟨-, rfl⟩ := readValue?_writeChars v hitems.1 (closes_comma _)
          (hskip ▸ closes_bracket _) hvalue
        rw [skipGap_cons rfl, List.cons.injEq] at hskip
        exact absurd hskip.1 (by decide)
      · obtain ⟨hw, rfl⟩ := readValue?_writeChars v hitems.1 (closes_comma _)
          (hskip ▸ closes_comma _) hvalue
        rw [skipGap_cons rfl, List.cons.injEq] at hskip
        obtain ⟨-, rfl⟩ := hskip
        obtain ⟨hrest, rfl⟩ :=
          readItems?_writeItems (u :: items) (List.cons_ne_nil _ _) hitems.2 hmore
        exact ⟨congrArg₂ List.cons hw hrest, rfl⟩
      · exact List.cons_ne_nil _ _

/-- The same for fields up to their closing brace. -/
theorem readFields?_writeFields : ∀ (fields : List (String × Value)), fields ≠ [] →
    Value.FieldsCanonical fields →
      ∀ {fuel depth : Nat} {rest left : List Char} {ws : List (String × Value)},
        readFields? fuel depth (writeFields fields ++ '}' :: rest) = some (ws, left) →
          Value.fieldsNumberless ws = Value.fieldsNumberless fields ∧ left = rest
  | [], hne, _, _, _, _, _, _, _ => absurd rfl hne
  | _ :: _, _, _, 0, _, _, _, _, h => by rw [readFields?] at h; cases h
  | [(key, v)], _, hfields, fuel + 1, depth, rest, left, ws, h => by
      rw [writeFields_singleton, List.append_assoc, List.cons_append] at h
      obtain ⟨name, k, colon, text, w, behind, hname, hkey, hcolon, hvalue, hbehind⟩ :=
        readFields?_succ_eq_some h
      obtain ⟨rfl, rfl⟩ := eq_of_readStringRest?_name hname hkey hcolon
      rcases hbehind with ⟨hskip, rfl⟩ | ⟨_, _, hskip, -⟩
      · obtain ⟨hw, rfl⟩ := readValue?_writeChars v hfields.1 (closes_brace _)
          (hskip ▸ closes_brace _) hvalue
        rw [skipGap_cons rfl, List.cons.injEq] at hskip
        exact ⟨congrArg (fun u => [(String.ofList k, u)]) hw, hskip.2.symm⟩
      · obtain ⟨-, rfl⟩ := readValue?_writeChars v hfields.1 (closes_brace _)
          (hskip ▸ closes_comma _) hvalue
        rw [skipGap_cons rfl, List.cons.injEq] at hskip
        exact absurd hskip.1 (by decide)
  | (key, v) :: field :: fields, _, hfields, fuel + 1, depth, rest, left, ws, h => by
      rw [writeFields, List.append_assoc, List.cons_append, List.append_assoc,
        List.cons_append] at h
      obtain ⟨name, k, colon, text, w, behind, hname, hkey, hcolon, hvalue, hbehind⟩ :=
        readFields?_succ_eq_some h
      obtain ⟨rfl, rfl⟩ := eq_of_readStringRest?_name hname hkey hcolon
      rcases hbehind with ⟨hskip, -⟩ | ⟨text, more, hskip, hmore, rfl⟩
      · obtain ⟨-, rfl⟩ := readValue?_writeChars v hfields.1 (closes_comma _)
          (hskip ▸ closes_brace _) hvalue
        rw [skipGap_cons rfl, List.cons.injEq] at hskip
        exact absurd hskip.1 (by decide)
      · obtain ⟨hw, rfl⟩ := readValue?_writeChars v hfields.1 (closes_comma _)
          (hskip ▸ closes_comma _) hvalue
        rw [skipGap_cons rfl, List.cons.injEq] at hskip
        obtain ⟨-, rfl⟩ := hskip
        obtain ⟨hrest, rfl⟩ :=
          readFields?_writeFields (field :: fields) (List.cons_ne_nil _ _) hfields.2 hmore
        exact ⟨congrArg₂ (fun u us => (String.ofList k, u) :: us) hw hrest, rfl⟩
      · exact List.cons_ne_nil _ _

end

/-- A canonical value that was written and is read at all reads back, its numbers aside. -/
theorem numberless_of_read?_write {v w : Value} (hv : v.IsCanonical)
    (h : read? (write v) = some w) : w.numberless = v.numberless := by
  rw [read?, write, String.toList_ofList, readChars?] at h
  split at h
  · cases h
  rename_i u left hread
  split at h
  · rename_i hleft
    cases h
    rw [List.isEmpty_iff] at hleft
    have hclosed : Closes (skipGap left) := hleft ▸ closes_nil
    rw [← List.append_nil (writeChars v)] at hread
    exact (readValue?_writeChars v hv closes_nil hclosed hread).1
  · cases h

end Json

end ClusterTuning
