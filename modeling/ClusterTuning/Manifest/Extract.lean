import ClusterTuning.Manifest
import ClusterTuning.Failure
import ClusterTuning.Data.Decode

/-!
# ClusterTuning.Manifest.Extract

**The single document of a kind.**

A manifest may describe at most one resource of some kinds. None is no failure, and several are
ambiguous.
-/

namespace ClusterTuning.ManifestSet

/-- Decode the single document of a kind, if there is one. -/
def extractSingle {α : Type} (kind : ResourceKind) (decode : Value → Decoded α)
    (set : ManifestSet) : Except Failure (Option α) :=
  match set.ofKind kind with
  | [] => .ok none
  | [doc] =>
    match decode doc.value with
    | .ok a => .ok (some a)
    | .error e => .error (.input (kind.name ++ " " ++ doc.name) e.message)
  | _ => .error (.resolution ("expected at most one " ++ kind.name ++ ", found several"))

end ClusterTuning.ManifestSet
