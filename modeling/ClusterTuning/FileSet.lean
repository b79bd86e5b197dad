import ClusterTuning.Data.Fields
import ClusterTuning.Text.Utf8

/-!
# ClusterTuning.FileSet

**Files by name, held in memory.**

A file set collects the inputs of one run. Writing a name again replaces its content, and names are
listed in order.
-/

namespace ClusterTuning

/-- Contents by name. -/
structure FileSet where
  /-- The files in the order of their names. -/
  files : List (String × Bytes)
deriving Repr, Inhabited

namespace FileSet

/-- No files. -/
def empty : FileSet := ⟨[]⟩

/-- Store a file, in place of one of the same name. -/
def write (name : String) (data : Bytes) (set : FileSet) : FileSet :=
  ⟨Fields.put name data set.files⟩

/-- The content of a file. -/
def read? (name : String) (set : FileSet) : Option Bytes :=
  Fields.get? name set.files

/-- The names in order. -/
def list (set : FileSet) : List String :=
  Fields.names set.files

theorem read?_write (name other : String) (data : Bytes) (set : FileSet) :
    read? other (write name data set) = if name = other then some data else read? other set :=
  Fields.get?_put name other data set.files

end FileSet

end ClusterTuning
