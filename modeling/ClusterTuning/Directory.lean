import ClusterTuning.Decimal.Layout
import ClusterTuning.Text.Pieces
import ClusterTuning.Text.Utf8

/-!
# ClusterTuning.Directory

**The working directory of a command, as the files and directories below it.**

A path is followed component by component. Empty components and `.` stay where they are, `..` goes
back up. Of what lies outside of the working directory little is known: the directories above it are
there, and so are the usual directories of the system and its empty device.
-/

namespace ClusterTuning

/-- The components of a path below the working directory. -/
abbrev Location := List String

/-- Files and directories below a directory. -/
structure Directory where
  /-- The directories. -/
  folders : List Location := []
  /-- The files with their content, the one written last first. -/
  files : List (Location × Bytes) := []
deriving Repr, Inhabited

/-- Why a file cannot be read. -/
inductive FileError where
  /-- Nothing is there. -/
  | notFound
  /-- It is a directory. -/
  | isDirectory
  /-- A component that has to be a directory is a file. -/
  | notDirectory
  /-- A component or the path itself is longer than the system allows. -/
  | tooLong
  /-- It is there but must not be used in this way. -/
  | notPermitted
  /-- The path holds the character zero, which ends paths. -/
  | zeroInPath
deriving DecidableEq, Repr, Inhabited

/-- What reading the file at a path gives. -/
abbrev FileReader := String → Except FileError Bytes

/-- The reason in words. -/
def FileError.reason : FileError → String
  | .notFound => "No such file or directory"
  | .isDirectory => "Is a directory"
  | .notDirectory => "Not a directory"
  | .tooLong => "File name too long"
  | .notPermitted => "Permission denied"
  | .zeroInPath => "file name contained an unexpected NUL byte"

/-- The number that the operating system has for the reason. Paths that it is never asked about have
none. -/
def FileError.number? : FileError → Option Nat
  | .notFound => some 2
  | .isDirectory => some 21
  | .notDirectory => some 20
  | .tooLong => some 36
  | .notPermitted => some 13
  | .zeroInPath => none

/-- The message for a reason. -/
def FileError.message (e : FileError) : String :=
  match e.number? with
  | some n => e.reason ++ " (os error " ++ String.ofList (Decimal.natDigits n) ++ ")"
  | none => e.reason

namespace Directory

/-- The components of a path that lead on. -/
def steps (path : String) : List String :=
  ((Text.splitAt '/' path.toList).map String.ofList).filter fun part => part ≠ "" ∧ part ≠ "."

/-- Does the path ask for a directory by the way it ends? -/
def endsInFolder (path : String) : Bool :=
  let chars := path.toList
  Text.endsWith ['/'] chars || Text.endsWith ['/', '.'] chars

/-- Is there a directory at the location? -/
def isFolder (d : Directory) (at_ : Location) : Bool :=
  at_.isEmpty || d.folders.any (fun folder => at_.isPrefixOf folder) ||
    d.files.any fun file => at_.isPrefixOf file.1.dropLast

/-- The content of the file at a location. -/
def file? (d : Directory) (at_ : Location) : Option Bytes :=
  d.files.lookup at_

/-- What is at a location. -/
def contentAt (d : Directory) (at_ : Location) : Except FileError Bytes :=
  match d.file? at_ with
  | some data => .ok data
  | none => if d.isFolder at_ then .error .isDirectory else .error .notFound

/-- The number of bytes that a component of a path may have. -/
def componentLimit : Nat := 255

/-- A path has fewer bytes than this. -/
def pathLimit : Nat := 4096

/-- What is wrong with a path whose further components lead on from above the working directory. -/
def aboveError (parts : List String) : FileError :=
  match parts.dropWhile (· = "..") with
  | [] => .isDirectory
  | part :: _ => if componentLimit < part.utf8ByteSize then .tooLong else .notFound

/-- Follow the components of a path from a location. Every component but the last has to be a
directory. Going up from the top stays there when the directory is the `root` of all others. -/
def follow (d : Directory) (root : Bool) : Location → List String → Except FileError Location
  | here, [] => .ok here
  | here, part :: rest =>
    if (d.file? here).isSome then .error .notDirectory
    else if !d.isFolder here then .error .notFound
    else if part = ".." then
      if here.isEmpty && !root then .error (aboveError rest)
      else follow d root here.dropLast rest
    else if componentLimit < part.utf8ByteSize then .error .tooLong
    else follow d root (here ++ [part]) rest

/-- Read the file at a path that is known to be well formed. -/
def readAlong (d : Directory) (root : Bool) (path : String) : Except FileError Bytes := do
  let at_ ← d.follow root [] (steps path)
  let data ← d.contentAt at_
  if endsInFolder path then .error .notDirectory else .ok data

/-- What is known of the directory that all others are in. -/
def system : Directory where
  folders := ["bin", "boot", "dev", "etc", "home", "lib", "mnt", "opt", "proc", "root", "run",
    "sbin", "srv", "sys", "tmp", "usr", "var"].map fun name => [name]
  files := [(["dev", "null"], [])]

/-- Read the file at a path. -/
def read (d : Directory) (path : String) : Except FileError Bytes :=
  if path.toList.contains '\x00' then .error .zeroInPath
  else if path = "" then .error .notFound
  else if pathLimit ≤ path.utf8ByteSize then .error .tooLong
  else if Text.startsWith ['/'] path.toList then system.readAlong true path
  else d.readAlong false path

/-- Put a directory at a path. -/
def addFolder (path : String) (d : Directory) : Directory :=
  { d with folders := steps path :: d.folders }

/-- Put a file at a path, in place of one that is there. -/
def addFile (path : String) (data : Bytes) (d : Directory) : Directory :=
  { d with files := (steps path, data) :: d.files }

end Directory

end ClusterTuning
