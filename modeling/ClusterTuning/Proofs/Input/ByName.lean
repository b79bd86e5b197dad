import ClusterTuning.Proofs.Input
import ClusterTuning.Proofs.Names

/-!
# ClusterTuning.Proofs.Input.ByName

**What a file set holds after inputs were read into it.**

Inputs of one name share one place in the list of names, that of the first of them, and one place
among the files, where the last of them stays. The list of names grows by each new name in turn
(`names_of_readFrom`), and the files are told by the last input of a name
(`read?_of_readFrom`), so both are read off the list of paths as a whole.

## Main statement

* `readInputs_byName`: names, contents, other files, standard input and blank inputs.
-/

namespace ClusterTuning

namespace Input

variable {reader : FileReader} {stdin : Bytes}

/-! ### The order of the names -/

/-- The names in the order in which they are read: each stands where its first path stood. -/
theorem names_of_readFrom {used : Bool} {names read paths : List String} {files stored : FileSet}
    (h : readFrom reader stdin used names files paths = (.ok read, stored)) :
    read = names ++ addedNames names (paths.map nameOf) := by
  induction paths generalizing used names files with
  | nil =>
      cases h
      rw [List.map_nil, addedNames_eq_nil (List.forall_mem_nil _), List.append_nil]
  | cons path rest ih =>
      obtain ⟨data, -, hrest⟩ := readFrom_cons_eq_ok h
      rw [ih hrest, addName, List.map_cons]
      by_cases hname : nameOf path ∈ names
      · rw [if_pos (List.contains_iff_mem.mpr hname), addedNames_cons_of_mem hname]
      · rw [if_neg (by simpa using hname), addedNames_cons_of_not_mem hname, List.append_assoc,
          List.singleton_append]

/-! ### The last input of a name -/

theorem lastGiven?_append (front back : List String) (name : String) :
    lastGiven? reader stdin (front ++ back) name =
      (lastGiven? reader stdin back name).or (lastGiven? reader stdin front name) := by
  simp [lastGiven?, List.findSome?_append]

/-- An input that no other one of its name follows is the last of its name. -/
theorem lastGiven?_of_split {front back : List String} {path : String} {data : Bytes}
    (hcontent : contentAt? reader stdin path = some data)
    (hback : nameOf path ∉ back.map nameOf) :
    lastGiven? reader stdin (front ++ path :: back) (nameOf path) = some data := by
  rw [lastGiven?_append, lastGiven?_cons, lastGiven?_eq_none hback, if_pos rfl, hcontent]
  rfl

/-! ### Blank inputs -/

/-- The bytes of the ASCII blanks: tab, line feed, form feed, carriage return and space. -/
def blankBytes : List UInt8 := [0x09, 0x0A, 0x0C, 0x0D, 0x20]

theorem isAsciiBlank_iff_mem_blankBytes (b : UInt8) :
    Text.isAsciiBlank (Char.ofNat b.toNat) = true ↔ b ∈ blankBytes := by
  have hbyte : ∀ n : Fin 256,
      Text.isAsciiBlank (Char.ofNat n) = true ↔ UInt8.ofNat n ∈ blankBytes := by
    decide +kernel
  simpa using hbyte ⟨b.toNat, b.toNat_lt⟩

/-- Data is more than blanks if one of its bytes is no blank. So it is not empty. -/
theorem isBlank_eq_false_iff {data : Bytes} :
    isBlank data = false ↔ ∃ b ∈ data, b ∉ blankBytes := by
  simp [isBlank, isAsciiBlank_iff_mem_blankBytes]

end Input

/-! ### Inputs into any file set -/

/-- The inputs at the paths were stored by their names, in a file set that held `before`. -/
structure StoredByName (reader : FileReader) (stdin : Bytes) (paths : List String)
    (before : FileSet) (names : List String) (after : FileSet) : Prop where
  /-- Each name is listed once. -/
  nodup : names.Nodup
  /-- The names are those of the inputs. -/
  mem_iff : ∀ name, name ∈ names ↔ ∃ path ∈ paths, Input.nameOf path = name
  /-- They stand in the order in which they first occur. -/
  inOrder : names.Pairwise fun a b =>
    (paths.map Input.nameOf).idxOf a < (paths.map Input.nameOf).idxOf b
  /-- Under each name lies the content of the last input of that name. -/
  last : ∀ front path back, paths = front ++ path :: back →
    Input.nameOf path ∉ back.map Input.nameOf →
      ∃ data, Input.contentAt? reader stdin path = some data ∧
        after.read? (Input.nameOf path) = some data
  /-- Under all other names lies what lay there before. -/
  others : ∀ name, name ∉ names → after.read? name = before.read? name
  /-- Standard input is given once at most. -/
  standardOnce : paths.count Input.standardPath ≤ 1
  /-- Each input was there and was more than blanks, also one that another has replaced. -/
  notBlank : ∀ path ∈ paths, ∃ data, Input.contentAt? reader stdin path = some data ∧
    ∃ b ∈ data, b ∉ Input.blankBytes

/-- Inputs that can be read are stored by their names, and of one name the last input stays. -/
theorem readInputs_byName {reader : FileReader} {stdin : Bytes} {paths names : List String}
    {before after : FileSet} (h : readInputs reader stdin paths before = (.ok names, after)) :
    StoredByName reader stdin paths before names after := by
  obtain ⟨hgiven, hcount⟩ := Input.exists_readFrom_iff.mp ⟨names, after, h⟩
  have hnames : names = (paths.map Input.nameOf).eraseDups := by
    rw [Input.names_of_readFrom h, List.nil_append, addedNames_nil]
  have hmem : ∀ name, name ∈ names ↔ ∃ path ∈ paths, Input.nameOf path = name := by
    intro name
    rw [Input.mem_of_readFrom_iff h]
    simp
  have hread := Input.read?_of_readFrom h
  constructor
  case nodup => exact Input.nodup_of_readFrom List.nodup_nil h
  case mem_iff => exact hmem
  case inOrder =>
    rw [hnames]
    exact pairwise_idxOf_eraseDups _
  case last =>
    intro front path back hpaths hback
    obtain ⟨data, hdata, -⟩ := hgiven path (by simp [hpaths])
    refine ⟨data, hdata, ?_⟩
    rw [hread, hpaths, Input.lastGiven?_of_split hdata hback, Option.some_or]
  case others =>
    intro name hname
    have hnot : name ∉ paths.map Input.nameOf := by
      rw [List.mem_map]
      exact fun hpath => hname ((hmem name).mpr hpath)
    rw [hread, Input.lastGiven?_eq_none hnot, Option.none_or]
  case standardOnce => simpa using hcount
  case notBlank =>
    intro path hpath
    obtain ⟨data, hdata, hblank⟩ := hgiven path hpath
    exact ⟨data, hdata, Input.isBlank_eq_false_iff.mp hblank⟩

/-- Two directories with a file of one name, and one with a file of the name of standard input. -/
def threeDirectories : FileReader := fun path =>
  match path with
  | "base/app.yaml" => .ok (Text.encode "kind: Application\n")
  | "patch/./app.yaml" => .ok (Text.encode "kind: Experiment\n")
  | "in/stdin.yaml/" => .ok (Text.encode "kind: Secret\n")
  | _ => .error .notFound

/-- A file set that holds something under a name that will be read, and under another. -/
def filledSet : FileSet :=
  (FileSet.empty.write "app.yaml" [0x30]).write "other.yaml" [0x31]

/-- Two files of one base name, standard input, and a file of the name of standard input. -/
def collidingPaths : List String :=
  ["base/app.yaml", "-", "patch/./app.yaml", "in/stdin.yaml/"]

/-- Later files replace a file and standard input of their names, and the names keep their
places. -/
theorem readInputs_byName_directories : ∃ after,
    readInputs threeDirectories [0x61] collidingPaths filledSet =
        (.ok ["app.yaml", "stdin.yaml"], after) ∧
      StoredByName threeDirectories [0x61] collidingPaths filledSet ["app.yaml", "stdin.yaml"]
        after ∧
      after.read? "app.yaml" = some (Text.encode "kind: Experiment\n") ∧
      after.read? "stdin.yaml" = some (Text.encode "kind: Secret\n") ∧
      after.read? "other.yaml" = some [0x31] := by
  have hnames : (readInputs threeDirectories [0x61] collidingPaths filledSet).1 =
      .ok ["app.yaml", "stdin.yaml"] := by
    decide +kernel
  have hread := Prod.ext hnames rfl
  refine ⟨_, hread, readInputs_byName hread, ?_, ?_, ?_⟩ <;> decide +kernel

end ClusterTuning
