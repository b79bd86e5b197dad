import ClusterTuning.Manifest
import ClusterTuning.FileSet
import ClusterTuning.Failure
import ClusterTuning.Yaml.Document

/-!
# ClusterTuning.Manifest.Reader

**Reading manifests from YAML streams.**

A source is a stream of documents. Empty documents are skipped, and anything but an object is
refused, with the place of the document in its source.
-/

namespace ClusterTuning.ManifestSet

/-- What is said of a document that is no YAML. -/
def malformedDetail (index : Nat) : String :=
  "document " ++ String.ofList (Decimal.natDigits index) ++ ": " ++ yamlDetail

/-- What is said of a document that is no object. -/
def notMappingDetail (index : Nat) : String :=
  "document " ++ String.ofList (Decimal.natDigits index) ++ " is not a mapping"

/-- The documents of a source, of which the first is numbered `index`. -/
def collect (source : String) : Nat → List (Option Value) → Except Failure ManifestSet
  | _, [] => .ok []
  | index, none :: _ => .error (.input source (malformedDetail index))
  | index, some .null :: rest => collect source (index + 1) rest
  | index, some (.object fields) :: rest =>
    match collect source (index + 1) rest with
    | .error e => .error e
    | .ok docs => .ok (Document.ofValue (.object fields) :: docs)
  | index, some _ :: _ => .error (.input source (notMappingDetail index))

/-- The documents of a source. -/
def ofBytes (source : String) (data : Bytes) : Except Failure ManifestSet :=
  match Text.decode? data with
  | none => .error (.input source utf8Detail)
  | some text => collect source 0 (Yaml.readAll text)

/-- Append the documents of a source. -/
def extend (set : ManifestSet) (source : String) (data : Bytes) : Except Failure ManifestSet :=
  (ofBytes source data).map fun docs => set ++ docs

/-- Append the documents of several sources in turn. -/
def extendAll (set : ManifestSet) : List (String × Bytes) → Except Failure ManifestSet
  | [] => .ok set
  | (source, data) :: rest =>
    match extend set source data with
    | .error e => .error e
    | .ok set => extendAll set rest

/-- The documents of the named files, in the given order of names. -/
def aggregate (files : FileSet) : List String → Except Failure ManifestSet
  | [] => .ok []
  | name :: rest =>
    match files.read? name with
    | none => .error (.input name "not found in file set")
    | some data =>
      match ofBytes name data with
      | .error e => .error e
      | .ok docs => (aggregate files rest).map fun more => docs ++ more

end ClusterTuning.ManifestSet
