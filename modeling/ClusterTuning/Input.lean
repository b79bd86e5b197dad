import ClusterTuning.Application
import ClusterTuning.Directory
import ClusterTuning.Failure
import ClusterTuning.FileSet
import ClusterTuning.Text.Blank

/-!
# ClusterTuning.Input

**The inputs of a command.**

Inputs are files, or standard input where the path is a dash. They are stored by their base names,
so that of two inputs with one base name the later one stays. Standard input can be read only once,
and an input without content is refused.
-/

namespace ClusterTuning

namespace Input

/-- The path that stands for standard input. -/
def standardPath : String := "-"

/-- The name under which standard input is stored. -/
def standardName : String := "stdin.yaml"

/-- Is there nothing but ASCII blanks in the data? -/
def isBlank (data : Bytes) : Bool :=
  data.all fun b => Text.isAsciiBlank (Char.ofNat b.toNat)

/-- Read one input, when standard input has been `used` or not: its name and its content. -/
def readOne (reader : FileReader) (stdin : Bytes) (used : Bool) (path : String) :
    Except Failure (String × Bytes) :=
  let found : Except Failure (String × Bytes) :=
    if path = standardPath then
      if used then .error (.input standardName "standard input given more than once")
      else .ok (standardName, stdin)
    else
      match reader path with
      | .ok data => .ok (storedName path, data)
      | .error e => .error (.input path e.message)
  match found with
  | .error e => .error e
  | .ok (name, data) =>
    if isBlank data then .error (.input name "no manifest content") else .ok (name, data)

/-- Append a name that is not there yet. -/
def addName (names : List String) (name : String) : List String :=
  if names.contains name then names else names ++ [name]

/-- Read inputs into a file set, behind the inputs of the given `names`. -/
def readFrom (reader : FileReader) (stdin : Bytes) (used : Bool) (names : List String)
    (files : FileSet) : List String → Except Failure (List String) × FileSet
  | [] => (.ok names, files)
  | path :: rest =>
    match readOne reader stdin used path with
    | .error e => (.error e, files)
    | .ok (name, data) =>
      readFrom reader stdin (used || path = standardPath) (addName names name)
        (files.write name data) rest

end Input

/-- Read inputs into a file set: the names under which they are stored, in the order of their first
appearance. What has been read before a failure stays in the file set. -/
def readInputs (reader : FileReader) (stdin : Bytes) (paths : List String) (files : FileSet) :
    Except Failure (List String) × FileSet :=
  Input.readFrom reader stdin false [] files paths

end ClusterTuning
