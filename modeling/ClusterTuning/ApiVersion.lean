import ClusterTuning.Text.Pieces

/-!
# ClusterTuning.ApiVersion

**The version of an API, with or without the group it belongs to.**
-/

namespace ClusterTuning

/-- A version of the API of a group. The core group is empty. -/
structure ApiVersion where
  /-- The group. -/
  group : String
  /-- The version. -/
  version : String
deriving DecidableEq, Repr, Inhabited

namespace ApiVersion

/-- The part before the last slash is the group. -/
def ofString (text : String) : ApiVersion :=
  match Text.cutAtLast '/' text.toList with
  | some (group, version) => ⟨String.ofList group, String.ofList version⟩
  | none => ⟨"", text⟩

/-- Group and version with a slash between them; the core group has none. -/
def toString (v : ApiVersion) : String :=
  if v.group = "" then v.version else v.group ++ "/" ++ v.version

end ApiVersion

end ClusterTuning
