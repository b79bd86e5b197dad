import ClusterTuning.Directory
import ClusterTuning.Program

/-!
# ClusterTuning.Program.Scripted

**Programs of known behaviour.**

They take the place of installed programs where commands are tried out: a program that shows what it
was given and then writes what is laid down, and one that puts files together.
-/

namespace ClusterTuning.Program

/-- A program that reads all of its input and writes what is laid down. -/
structure Scripted where
  /-- Does it write its input first? -/
  echoes : Bool := false
  /-- A variable of its environment that it writes next. -/
  shows : Option String := none
  /-- What it writes to its output. -/
  stdout : Bytes := []
  /-- What it writes to its messages. -/
  stderr : Bytes := []
  /-- How it ends. -/
  ending : ExitStatus := .exited 0
  /-- Does it stay idle until its time is over, and do none of this? -/
  stalls : Bool := false
deriving Repr, Inhabited

namespace Scripted

/-- The signal that ends a program whose time is over. -/
def killSignal : Nat := 9

/-- Run the program. -/
def run (p : Scripted) (i : Invocation) : Execution :=
  if p.stalls then ⟨.signalled killSignal, [], [], true⟩
  else
    let input := if p.echoes then i.stdin.getD [] else []
    let shown := (p.shows.bind fun name => i.environment.lookup name).getD ""
    ⟨p.ending, [input, Text.encode shown, p.stdout], [p.stderr], false⟩

end Scripted

/-- Why a program that is not installed cannot be started. A name without a slash is looked for among
the installed programs; the names that stand for directories are found there but cannot be run. -/
def startError (reader : FileReader) (program : String) : FileError :=
  let found :=
    if program.toList.contains '/' then reader program
    else if program = "." ∨ program = ".." then .error .isDirectory
    else if Directory.componentLimit < program.utf8ByteSize then .error .tooLong
    else .error .notFound
  match found with
  | .ok _ | .error .isDirectory => .notPermitted
  | .error e => e

/-- What one path adds when files are put together: output, messages, and whether it was read. -/
def filePart (reader : FileReader) (i : Invocation) (path : String) : Bytes × Bytes × Bool :=
  if path = "-" then (i.stdin.getD [], [], true)
  else
    match reader path with
    | .ok data => (data, [], true)
    | .error e =>
      let complaint := i.program ++ ": " ++ path ++ ": " ++ e.reason ++ "\n"
      ([], Text.encode complaint, false)

/-- Put files together. Without paths the input is given out as it is. -/
def concatenate (reader : FileReader) (i : Invocation) : Execution :=
  let parts := (if i.args.isEmpty then ["-"] else i.args).map (filePart reader i)
  let read := parts.all fun part => part.2.2
  ⟨.exited (if read then 0 else 1), parts.map fun part => part.1,
    parts.map fun part => part.2.1, false⟩

/-- The few programs that there are in a directory of files. -/
def standardLauncher (reader : FileReader) : Launcher := fun i =>
  if i.program = "cat" then .ok (concatenate reader i)
  else if i.program = "true" then .ok ⟨.exited 0, [], [], false⟩
  else if i.program = "false" then .ok ⟨.exited 1, [], [], false⟩
  else .error (startError reader i.program).message

end ClusterTuning.Program
