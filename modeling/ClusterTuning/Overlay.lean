import ClusterTuning.Manifest.Reader
import ClusterTuning.MergePatch
import ClusterTuning.Patch

/-!
# ClusterTuning.Overlay

**Rendered patches laid over manifests.**

The named files are read in the order of their names, each once. Every patch is then merged into
each document that its target selects, patch by patch.
-/

namespace ClusterTuning

/-- Merge the content of a patch into a document. The kind that was read stays. -/
def Document.patched (doc : Document) (patch : Value) : Document :=
  ⟨doc.kind, doc.value.mergePatch patch⟩

/-- Merge a patch into the documents that it is for. A patch goes through its written form. -/
def applyPatch (set : ManifestSet) (p : RenderedPatch) : Except Failure ManifestSet :=
  match Json.read? p.body with
  | none => .error (.malformedPatch p.key jsonDetail)
  | some content =>
    .ok (set.map fun doc => if p.target.selects doc then doc.patched content else doc)

/-- Merge patches in order. -/
def applyPatches (set : ManifestSet) : PatchSet → Except Failure ManifestSet
  | [] => .ok set
  | p :: rest =>
    match applyPatch set p with
    | .error e => .error e
    | .ok set => applyPatches set rest

/-- Names in order, each once. -/
def distinctNames (names : List String) : List String :=
  Fields.names (Fields.ofList (names.map fun name => (name, ())))

/-- The documents of the named files with patches laid over them. -/
def overlay (files : FileSet) (names : List String) (patches : PatchSet) :
    Except Failure ManifestSet :=
  match ManifestSet.aggregate files (distinctNames names) with
  | .error e => .error e
  | .ok set => applyPatches set patches

/-- The documents of the named files with patches laid over them, as YAML. -/
def compose (files : FileSet) (names : List String) (patches : PatchSet) :
    Except Failure String :=
  (overlay files names patches).map ManifestSet.toYaml

end ClusterTuning
