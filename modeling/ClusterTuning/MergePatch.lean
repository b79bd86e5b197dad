import ClusterTuning.Data.Value

/-!
# ClusterTuning.MergePatch

**Merging a patch into a value.**

Objects merge field by field, and nothing as the value of a field removes it. Two lists whose items
all have a name merge item by item: each item of the patch goes into the first item of its name, or
is appended. In every other case the patch takes the place of the value, without its fields that
hold nothing.
-/

namespace ClusterTuning

namespace Value

/-- The name of an item: a text that is not empty. -/
def itemName? (v : Value) : Option String :=
  ((v.get? "name").bind text?).filter fun name => name ≠ ""

/-- Do all items have a name? -/
def allNamed (items : List Value) : Bool :=
  items.all fun item => item.itemName?.isSome

mutual

/-- The value without the fields that hold nothing, at every depth. -/
def withoutNulls : Value → Value
  | .array items => .array (itemsWithoutNulls items)
  | .object fields => .object (fieldsWithoutNulls fields)
  | v => v

/-- Items without the fields that hold nothing. -/
def itemsWithoutNulls : List Value → List Value
  | [] => []
  | v :: rest => withoutNulls v :: itemsWithoutNulls rest

/-- Fields without those that hold nothing. -/
def fieldsWithoutNulls : List (String × Value) → List (String × Value)
  | [] => []
  | (key, v) :: rest =>
    if v.isNull then fieldsWithoutNulls rest else (key, withoutNulls v) :: fieldsWithoutNulls rest

end

/-- Change the first item of a name by `change`, or append `fresh`. -/
def changeNamed (name : Option String) (change : Value → Value) (fresh : Value) :
    List Value → List Value
  | [] => [fresh]
  | item :: rest =>
    if item.itemName? = name then change item :: rest
    else item :: changeNamed name change fresh rest

mutual

/-- Merge a patch into a value. -/
def mergePatch (target : Value) : Value → Value
  | .object patch =>
    match target with
    | .object fields => .object (mergeFields fields patch)
    | _ => withoutNulls (.object patch)
  | .array patch =>
    match target with
    | .array items =>
      if allNamed items && allNamed patch then .array (mergeItems items patch)
      else withoutNulls (.array patch)
    | _ => withoutNulls (.array patch)
  | patch => patch

/-- Merge the fields of a patch into fields, one after the other. -/
def mergeFields (fields : List (String × Value)) : List (String × Value) → List (String × Value)
  | [] => fields
  | (key, v) :: rest =>
    let changed :=
      if v.isNull then Fields.erase key fields
      else
        match Fields.get? key fields with
        | some old => Fields.put key (mergePatch old v) fields
        | none => Fields.put key (withoutNulls v) fields
    mergeFields changed rest

/-- Merge the named items of a patch into named items, one after the other. -/
def mergeItems (items : List Value) : List Value → List Value
  | [] => items
  | item :: rest =>
    mergeItems
      (changeNamed item.itemName? (fun old => mergePatch old item) (withoutNulls item) items) rest

end

end Value

end ClusterTuning
