import ClusterTuning.Overlay
import ClusterTuning.Proofs.Manifest
import Mathlib.Data.List.Perm.Basic

/-!
# ClusterTuning.Proofs.Manifest.Named

**The documents of named files.**

Gathering the documents of names reads the files of the names one by one, so when it succeeds it is
a `flatMap` over the names, and reordered names give reordered documents. The names that a manifest
is made of are put in order and each is kept once, which loses none of them.

## Main statements

* `ManifestSet.aggregate_eq_ok_iff`: gathering succeeds exactly if every named file can be read.
* `nodup_distinctNames`, `mem_distinctNames_iff`: the ordered names are the same names, each once.
-/

namespace ClusterTuning

/-! ### Files read by name -/

namespace ManifestSet

/-- The documents of a file, none if there is no such file or it cannot be read. -/
def documentsIn (files : FileSet) (name : String) : ManifestSet :=
  ((files.read? name).bind fun data => (ofBytes name data).toOption).getD []

/-- There is a file of the name, and its documents can be read. -/
def Readable (files : FileSet) (name : String) : Prop :=
  ∃ data, files.read? name = some data ∧ ofBytes name data = .ok (documentsIn files name)

theorem documentsIn_of_ofBytes {files : FileSet} {name : String} {data : Bytes} {docs : ManifestSet}
    (hdata : files.read? name = some data) (hdocs : ofBytes name data = .ok docs) :
    documentsIn files name = docs := by
  rw [documentsIn, hdata, Option.bind_some, hdocs]
  rfl

theorem documentsIn_congr {files others : FileSet} {name : String}
    (h : files.read? name = others.read? name) : documentsIn files name = documentsIn others name := by
  rw [documentsIn, h, documentsIn]

/-- Named files are put together exactly if each of them can be read, and then in the order of their
names. -/
theorem aggregate_eq_ok_iff {files : FileSet} {names : List String} {set : ManifestSet} :
    aggregate files names = .ok set ↔
      (∀ name ∈ names, Readable files name) ∧ set = names.flatMap (documentsIn files) := by
  induction names generalizing set with
  | nil => simp [aggregate, eq_comm]
  | cons name rest ih =>
      rw [aggregate, List.forall_mem_cons, List.flatMap_cons]
      cases hdata : files.read? name with
      | none => simp [Readable, hdata]
      | some data =>
          cases hdocs : ofBytes name data with
          | error e => simp [Readable, hdata, hdocs]
          | ok docs =>
              have hhead : documentsIn files name = docs := documentsIn_of_ofBytes hdata hdocs
              have hreadable : Readable files name := ⟨data, hdata, hhead ▸ hdocs⟩
              simp only [hdocs, map_eq_ok_iff, ih, hreadable, hhead, true_and]
              constructor
              · rintro ⟨more, ⟨hrest, rfl⟩, rfl⟩
                exact ⟨hrest, rfl⟩
              · rintro ⟨hrest, rfl⟩
                exact ⟨_, ⟨hrest, rfl⟩, rfl⟩

end ManifestSet

/-! ### Names in order, each once -/

theorem mem_distinctNames_iff {names : List String} {name : String} :
    name ∈ distinctNames names ↔ name ∈ names := by
  -- the ordered names are stored one by one into nothing
  have hputAll : ∀ entries : List (String × Unit), Fields.ofList entries = Fields.putAll [] entries :=
    fun _ => rfl
  rw [distinctNames, hputAll, Fields.mem_names_putAll_iff]
  simp [Fields.names]

theorem nodup_distinctNames (names : List String) : (distinctNames names).Nodup :=
  (Fields.ordered_ofList _).imp fun h => ne_of_lt h

/-- In order, the same names are the same list. -/
theorem distinctNames_congr {names others : List String}
    (h : ∀ name, name ∈ others ↔ name ∈ names) : distinctNames others = distinctNames names := by
  have hordered : ∀ names : List String, (distinctNames names).Pairwise (· < ·) := fun _ =>
    Fields.ordered_ofList _
  have hsame : (distinctNames others).Perm (distinctNames names) := by
    refine (List.perm_ext_iff_of_nodup (nodup_distinctNames _) (nodup_distinctNames _)).mpr ?_
    intro name
    rw [mem_distinctNames_iff, mem_distinctNames_iff, h]
  exact hsame.eq_of_pairwise (fun _ _ _ _ hab hba => absurd hba (lt_asymm hab)) (hordered _)
    (hordered _)

end ClusterTuning
