import ClusterTuning.CommandLine

/-!
# ClusterTuning.Main

**The commands as a program.**

The files that a command names are read first, and so is its input. Requests and other programs are
beyond this program: no server answers and no program starts.
-/

namespace ClusterTuning.CommandLine

/-- The files that a command line of the first command names. -/
def namedFiles (words : List String) : List String :=
  match PatchCall.read words with
  | .ok call => call.choice.config :: call.files
  | .error _ => []

/-- The files that a command line of the controller names. -/
def namedSettings (words : List String) : List String :=
  match ControllerCall.read words with
  | .ok call => [call.choice.config]
  | .error _ => []

/-- Read the file at a path. -/
def readFile (path : String) : IO (Except FileError Bytes) := do
  try
    let data ← IO.FS.readBinFile path
    return .ok data.toList
  catch e =>
    match e with
    | .noFileOrDirectory .. => return .error .notFound
    | .inappropriateType .. => return .error .isDirectory
    | _ => return .error .notDirectory

/-- Read what a command is going to see. -/
def look (paths : List String) : IO Surroundings := do
  let files ← paths.mapM fun path => do return (path, ← readFile path)
  let stdin ←
    if paths.contains Input.standardPath then (← IO.getStdin).readBinToEnd else pure ByteArray.empty
  return {
    reader := fun path => (files.lookup path).getD (.error .notFound)
    stdin := stdin.toList
    launch := fun _ => .error FileError.notFound.message }

/-- Say how a command ended. -/
def conclude (e : Ending) : IO UInt32 := do
  IO.print e.stdout
  IO.eprint e.stderr
  return UInt32.ofNat e.exit

end ClusterTuning.CommandLine

open ClusterTuning.CommandLine in
/-- The controller has a program name of its own. -/
def main (words : List String) : IO UInt32 := do
  if (← IO.appPath).fileName == some "trialctl-controller" then
    conclude (controllerCommand (← look (namedSettings words)) words)
  else
    conclude (patchCommand (← look (namedFiles words)) words)
