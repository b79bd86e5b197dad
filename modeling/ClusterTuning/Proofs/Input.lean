import ClusterTuning.Input
import ClusterTuning.Proofs.OrderedFields
import Mathlib.Data.List.Count
import Mathlib.Data.List.Nodup

/-!
# ClusterTuning.Proofs.Input

**Inputs are kept by name, and the last one of a name stays.**

The names that were read, the files and the note on standard input go through the inputs together.
Reading one input is taken apart once (`readOne_eq_ok`), and the three follow by induction on the
paths from what one input does to each.

## Main statements

* `nodup_of_readFrom`, `mem_of_readFrom_iff`: each name is listed once, exactly if an input has it.
* `read?_of_readFrom`: under each name lies the content of the last input of that name.
* `exists_readFrom_iff`: inputs are read exactly if each of them is given and standard input is used
  once at most.
* `readInputs_of_perm`: inputs of different names may be given in any order.
-/

namespace ClusterTuning

namespace Input

variable {reader : FileReader} {stdin : Bytes}

/-! ### One input -/

/-- The name under which the input at a path is stored. -/
def nameOf (path : String) : String :=
  if path = standardPath then standardName else storedName path

/-- What can be read at a path. -/
def contentAt? (reader : FileReader) (stdin : Bytes) (path : String) : Option Bytes :=
  if path = standardPath then some stdin else (reader path).toOption

/-- What one input that can be read gives. Standard input was not used before, and there is more
than blanks. -/
theorem readOne_eq_ok {used : Bool} {path name : String} {data : Bytes}
    (h : readOne reader stdin used path = .ok (name, data)) :
    name = nameOf path ∧ contentAt? reader stdin path = some data ∧ isBlank data = false ∧
      (path = standardPath → used = false) := by
  rw [readOne] at h
  split at h
  · cases h
  rename_i found content hfound
  by_cases hblank : isBlank content = true
  · rw [if_pos hblank] at h
    cases h
  rw [if_neg hblank] at h
  cases h
  rw [nameOf, contentAt?]
  -- the standard input has a name and a content of its own
  by_cases hpath : path = standardPath
  · rw [if_pos hpath] at hfound ⊢
    rw [if_pos hpath]
    cases used with
    | true => cases hfound
    | false =>
        cases hfound
        exact ⟨rfl, rfl, Bool.eq_false_iff.mpr hblank, fun _ => rfl⟩
  · rw [if_neg hpath] at hfound ⊢
    rw [if_neg hpath]
    cases hread : reader path with
    | error e =>
        rw [hread] at hfound
        cases hfound
    | ok content =>
        rw [hread] at hfound
        cases hfound
        exact ⟨rfl, rfl, Bool.eq_false_iff.mpr hblank, fun h => absurd h hpath⟩

theorem mem_addName_iff {names : List String} {name other : String} :
    other ∈ addName names name ↔ other ∈ names ∨ name = other := by
  rw [addName]
  by_cases hname : name ∈ names
  · rw [if_pos (List.contains_iff_mem.mpr hname)]
    constructor
    · exact Or.inl
    · rintro (hmem | rfl)
      · exact hmem
      · exact hname
  · rw [if_neg (by simpa using hname), List.mem_append, List.mem_singleton, eq_comm (a := other)]

theorem nodup_addName {names : List String} (h : names.Nodup) (name : String) :
    (addName names name).Nodup := by
  rw [addName]
  split
  · exact h
  · rename_i hname
    have hmem : name ∉ names := by simpa using hname
    refine List.nodup_append.mpr ⟨h, by simp, ?_⟩
    intro other hother same hsame
    rw [List.mem_singleton.mp hsame]
    rintro rfl
    exact hmem hother

/-! ### Inputs in turn -/

/-- The content of the last input of a name. -/
def lastGiven? (reader : FileReader) (stdin : Bytes) (paths : List String) (name : String) :
    Option Bytes :=
  paths.reverse.findSome? fun path =>
    if nameOf path = name then contentAt? reader stdin path else none

theorem lastGiven?_cons (path : String) (rest : List String) (name : String) :
    lastGiven? reader stdin (path :: rest) name = (lastGiven? reader stdin rest name).or
      (if nameOf path = name then contentAt? reader stdin path else none) := by
  simp [lastGiven?, List.findSome?_append]

variable {used : Bool} {names read : List String} {files stored : FileSet}

/-- Where all paths are read, the first one had content, and the others are read with its name and
its content stored. -/
theorem readFrom_cons_eq_ok {path : String} {rest : List String}
    (h : readFrom reader stdin used names files (path :: rest) = (.ok read, stored)) :
    ∃ data, contentAt? reader stdin path = some data ∧
      readFrom reader stdin (used || path = standardPath) (addName names (nameOf path))
        (files.write (nameOf path) data) rest = (.ok read, stored) := by
  rw [readFrom] at h
  split at h
  · cases h
  rename_i name data hone
  obtain ⟨rfl, hcontent, -, -⟩ := readOne_eq_ok hone
  exact ⟨data, hcontent, h⟩

theorem nodup_of_readFrom {paths : List String} (hnames : names.Nodup)
    (h : readFrom reader stdin used names files paths = (.ok read, stored)) : read.Nodup := by
  induction paths generalizing used names files with
  | nil =>
      cases h
      exact hnames
  | cons path rest ih =>
      obtain ⟨data, -, hrest⟩ := readFrom_cons_eq_ok h
      exact ih (nodup_addName hnames _) hrest

/-- The names that are read are those of the paths, and those from before. -/
theorem mem_of_readFrom_iff {paths : List String}
    (h : readFrom reader stdin used names files paths = (.ok read, stored)) {name : String} :
    name ∈ read ↔ name ∈ names ∨ ∃ path ∈ paths, nameOf path = name := by
  induction paths generalizing used names files with
  | nil =>
      cases h
      simp
  | cons path rest ih =>
      obtain ⟨data, -, hrest⟩ := readFrom_cons_eq_ok h
      rw [ih hrest, mem_addName_iff]
      simp [or_assoc]

/-- The stored files are those of the paths, and those from before. -/
theorem isSome_read?_of_readFrom_iff {paths : List String}
    (h : readFrom reader stdin used names files paths = (.ok read, stored)) {name : String} :
    (stored.read? name).isSome = true ↔
      (files.read? name).isSome = true ∨ ∃ path ∈ paths, nameOf path = name := by
  induction paths generalizing used names files with
  | nil =>
      cases h
      simp
  | cons path rest ih =>
      obtain ⟨data, -, hrest⟩ := readFrom_cons_eq_ok h
      rw [ih hrest, FileSet.read?_write]
      by_cases hname : nameOf path = name
      · simp [hname]
      · simp [hname]

/-- Under the name of an input lies the content of the last input of that name, and under any other
what lay there before. -/
theorem read?_of_readFrom {paths : List String}
    (h : readFrom reader stdin used names files paths = (.ok read, stored)) (name : String) :
    stored.read? name = (lastGiven? reader stdin paths name).or (files.read? name) := by
  induction paths generalizing used names files with
  | nil =>
      cases h
      rfl
  | cons path rest ih =>
      obtain ⟨data, hdata, hrest⟩ := readFrom_cons_eq_ok h
      -- inputs behind the first win over it, and the first wins over what lay there before
      rw [ih hrest, lastGiven?_cons, FileSet.read?_write, Option.or_assoc]
      by_cases hname : nameOf path = name
      · simp [hname, hdata]
      · simp [hname]

/-! ### Which inputs are read -/

/-- There is something at the path that can be read, and it is more than blanks. -/
def Given (reader : FileReader) (stdin : Bytes) (path : String) : Prop :=
  ∃ data, contentAt? reader stdin path = some data ∧ isBlank data = false

/-- A path is read if it has content that is not blank, and is not the standard input for a second
time. -/
theorem readOne_of_given {path : String} {data : Bytes}
    (hcontent : contentAt? reader stdin path = some data) (hblank : isBlank data = false)
    (hused : path = standardPath → used = false) :
    readOne reader stdin used path = .ok (nameOf path, data) := by
  rw [contentAt?] at hcontent
  rw [readOne, nameOf]
  by_cases hpath : path = standardPath
  · rw [if_pos hpath] at hcontent
    cases hcontent
    simp [hpath, hused hpath, hblank]
  · rw [if_neg hpath] at hcontent
    cases hread : reader path with
    | error e =>
        rw [hread] at hcontent
        cases hcontent
    | ok content =>
        rw [hread] at hcontent
        cases hcontent
        simp [hpath, hblank]

/-- Inputs are read exactly if each of them is given, and standard input only once. -/
theorem exists_readFrom_iff {paths : List String} :
    (∃ read stored, readFrom reader stdin used names files paths = (.ok read, stored)) ↔
      (∀ path ∈ paths, Given reader stdin path) ∧
        used.toNat + paths.count standardPath ≤ 1 := by
  induction paths generalizing used names files with
  | nil => simp [readFrom, Bool.toNat_le]
  | cons path rest ih =>
      rw [readFrom, List.forall_mem_cons, List.count_cons]
      cases hone : readOne reader stdin used path with
      | error e =>
          refine iff_of_false nofun ?_
          -- an input that is given fails only as the standard input for a second time
          rintro ⟨⟨⟨data, hcontent, hblank⟩, -⟩, hcount⟩
          have hused : path = standardPath → used = false := by
            rintro rfl
            rw [if_pos (beq_self_eq_true _)] at hcount
            exact Bool.toNat_eq_zero.mp (by omega)
          rw [readOne_of_given hcontent hblank hused] at hone
          cases hone
      | ok entry =>
          obtain ⟨name, data⟩ := entry
          obtain ⟨-, hcontent, hblank, hused⟩ := readOne_eq_ok hone
          have hgiven : Given reader stdin path := ⟨data, hcontent, hblank⟩
          simp only [ih, hgiven, true_and]
          by_cases hpath : path = standardPath
          · simp [hpath, hused hpath, Nat.add_comm]
          · simp [hpath]

/-! ### Inputs of different names -/

theorem ordered_of_readFrom {paths : List String} (hfiles : Fields.Ordered files.files)
    (h : readFrom reader stdin used names files paths = (.ok read, stored)) :
    Fields.Ordered stored.files := by
  induction paths generalizing used names files with
  | nil =>
      cases h
      exact hfiles
  | cons path rest ih =>
      obtain ⟨data, -, hrest⟩ := readFrom_cons_eq_ok h
      exact ih (hfiles.put (nameOf path) data) hrest

theorem lastGiven?_eq_none {paths : List String} {name : String}
    (h : name ∉ paths.map nameOf) : lastGiven? reader stdin paths name = none := by
  induction paths with
  | nil => rfl
  | cons path rest ih =>
      rw [List.map_cons, List.mem_cons, not_or] at h
      rw [lastGiven?_cons, ih h.2, if_neg (Ne.symm h.1), Option.or_none]

/-- The last input of a name is the only one. -/
theorem lastGiven?_of_mem {paths : List String} (hdistinct : (paths.map nameOf).Nodup)
    {path : String} (h : path ∈ paths) :
    lastGiven? reader stdin paths (nameOf path) = contentAt? reader stdin path := by
  induction paths with
  | nil => cases h
  | cons first rest ih =>
      rw [List.map_cons, List.nodup_cons] at hdistinct
      rw [lastGiven?_cons]
      rcases List.mem_cons.mp h with rfl | hrest
      · rw [lastGiven?_eq_none hdistinct.1, if_pos rfl, Option.none_or]
      · have hne : nameOf first ≠ nameOf path := fun hsame =>
          hdistinct.1 (hsame ▸ List.mem_map_of_mem hrest)
        rw [ih hdistinct.2 hrest, if_neg hne, Option.or_none]

/-- Among paths of different names the order does not matter to what is stored under one. -/
theorem lastGiven?_of_perm {paths others : List String} (hperm : paths.Perm others)
    (hdistinct : (paths.map nameOf).Nodup) (name : String) :
    lastGiven? reader stdin others name = lastGiven? reader stdin paths name := by
  have hothers : (others.map nameOf).Nodup := (hperm.map nameOf).nodup_iff.mp hdistinct
  by_cases hname : name ∈ paths.map nameOf
  · obtain ⟨path, hpath, rfl⟩ := List.mem_map.mp hname
    rw [lastGiven?_of_mem hdistinct hpath, lastGiven?_of_mem hothers (hperm.subset hpath)]
  · have hname' : name ∉ others.map nameOf := fun h => hname ((hperm.map nameOf).mem_iff.mpr h)
    rw [lastGiven?_eq_none hname, lastGiven?_eq_none hname']

end Input

/-! ### Inputs into an empty file set -/

/-- The files under the names are the inputs at the paths, each name with its last input. -/
structure InputsRead (reader : FileReader) (stdin : Bytes) (paths names : List String)
    (files : FileSet) : Prop where
  /-- Each name is listed once. -/
  nodup : names.Nodup
  /-- The names are those of the inputs. -/
  mem_iff : ∀ name, name ∈ names ↔ ∃ path ∈ paths, Input.nameOf path = name
  /-- There are no files of other names. -/
  isSome_iff : ∀ name, (files.read? name).isSome = true ↔ name ∈ names
  /-- Under each name lies the last input of the name. -/
  read?_eq : ∀ name, files.read? name = Input.lastGiven? reader stdin paths name

/-- Inputs that were read one by one are the files under their names. -/
theorem inputsRead_of_readInputs {reader : FileReader} {stdin : Bytes} {paths names : List String}
    {files : FileSet} (h : readInputs reader stdin paths FileSet.empty = (.ok names, files)) :
    InputsRead reader stdin paths names files := by
  have hnone : ∀ name, FileSet.read? name FileSet.empty = none := fun _ => rfl
  have hmem : ∀ name, name ∈ names ↔ ∃ path ∈ paths, Input.nameOf path = name := by
    intro name
    rw [Input.mem_of_readFrom_iff h]
    simp
  constructor
  case nodup => exact Input.nodup_of_readFrom List.nodup_nil h
  case mem_iff => exact hmem
  case isSome_iff =>
    intro name
    rw [Input.isSome_read?_of_readFrom_iff h, hmem, hnone]
    simp
  case read?_eq =>
    intro name
    rw [Input.read?_of_readFrom h, hnone, Option.or_none]

/-- Inputs of different names give the same files in any order, and the same names in another. -/
theorem readInputs_of_perm {reader : FileReader} {stdin : Bytes} {paths others names : List String}
    {files : FileSet} (hperm : paths.Perm others) (hdistinct : (paths.map Input.nameOf).Nodup)
    (h : readInputs reader stdin paths FileSet.empty = (.ok names, files)) :
    ∃ others', readInputs reader stdin others FileSet.empty = (.ok others', files) ∧
      names.Perm others' := by
  obtain ⟨hgiven, hcount⟩ := Input.exists_readFrom_iff.mp ⟨names, files, h⟩
  have hgiven' : ∀ path ∈ others, Input.Given reader stdin path := fun path hpath =>
    hgiven path (hperm.mem_iff.mpr hpath)
  rw [hperm.count_eq] at hcount
  obtain ⟨others', files', h'⟩ := Input.exists_readFrom_iff.mpr ⟨hgiven', hcount⟩
  have hread := inputsRead_of_readInputs h
  have hread' := inputsRead_of_readInputs h'
  -- files are kept in order, so it is enough that under each name lies the same
  have hfiles : files' = files := by
    have hsame : files'.files = files.files := by
      refine Fields.eq_of_get?_eq (Input.ordered_of_readFrom Fields.ordered_nil h')
        (Input.ordered_of_readFrom Fields.ordered_nil h) fun name => ?_
      exact (hread'.read?_eq name).trans
        ((Input.lastGiven?_of_perm hperm hdistinct name).trans (hread.read?_eq name).symm)
    cases files
    cases files'
    exact congrArg FileSet.mk hsame
  refine ⟨others', hfiles ▸ h', (List.perm_ext_iff_of_nodup hread.nodup hread'.nodup).mpr ?_⟩
  intro name
  rw [hread.mem_iff, hread'.mem_iff]
  exact exists_congr fun path => and_congr_left fun _ => hperm.mem_iff

end ClusterTuning
