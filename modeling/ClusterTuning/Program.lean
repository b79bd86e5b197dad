import ClusterTuning.Text.Blank
import ClusterTuning.Text.Pieces
import ClusterTuning.Text.Quoted
import ClusterTuning.Text.Utf8
import ClusterTuning.Decimal.Layout

/-!
# ClusterTuning.Program

**Runs of other programs, within bounds.**

A program gets its input at once and is given a limited time. Each of its two outputs comes through
a pipe that is read to its end. Of the bytes no more than a limited number is kept, and the rest is
counted. A run is a success when it ended in time, by itself and without complaint, and when all of
its output is there; its messages may be cut.
-/

namespace ClusterTuning.Program

/-- How a program ended. -/
inductive ExitStatus where
  /-- It gave an exit code. -/
  | exited (code : Nat)
  /-- A signal ended it. -/
  | signalled (signal : Nat)
deriving DecidableEq, Repr, Inhabited

/-- The names of signals by number, from the first on. -/
def signalNames : List String := [
  "SIGHUP", "SIGINT", "SIGQUIT", "SIGILL", "SIGTRAP", "SIGABRT", "SIGBUS", "SIGFPE", "SIGKILL",
  "SIGUSR1", "SIGSEGV", "SIGUSR2", "SIGPIPE", "SIGALRM", "SIGTERM", "SIGSTKFLT", "SIGCHLD",
  "SIGCONT", "SIGSTOP", "SIGTSTP", "SIGTTIN", "SIGTTOU", "SIGURG", "SIGXCPU", "SIGXFSZ",
  "SIGVTALRM", "SIGPROF", "SIGWINCH", "SIGIO", "SIGPWR", "SIGSYS"]

/-- The name of a signal. -/
def signalName? (signal : Nat) : Option String :=
  if signal = 0 then none else signalNames[signal - 1]?

namespace ExitStatus

/-- Did the program end without complaint? -/
def isSuccess : ExitStatus → Bool
  | .exited code => code == 0
  | .signalled _ => false

/-- How a program ended, in words. -/
def words : ExitStatus → String
  | .exited code => "exit status: " ++ String.ofList (Decimal.natDigits code)
  | .signalled signal =>
    "signal: " ++ String.ofList (Decimal.natDigits signal) ++
      match signalName? signal with
      | some name => " (" ++ name ++ ")"
      | none => ""

end ExitStatus

/-! ### Programs and their runs -/

/-- What is to be run. -/
structure Invocation where
  /-- The program. -/
  program : String
  /-- Its arguments. -/
  args : List String
  /-- Its input, if it gets any. -/
  stdin : Option Bytes
  /-- Variables of its environment. -/
  environment : List (String × String) := []
deriving Repr, Inhabited

/-- What comes through a pipe, in the pieces in which it arrives. -/
abbrev Pipe := List Bytes

/-- How a run went. -/
structure Execution where
  /-- How the program ended. -/
  status : ExitStatus
  /-- All that it wrote to its output. -/
  stdout : Pipe
  /-- All that it wrote to its messages. -/
  stderr : Pipe
  /-- Was it ended because its time was over? -/
  timedOut : Bool
deriving Repr, Inhabited

/-- Runs programs, or says why one cannot be started. -/
abbrev Launcher := Invocation → Except String Execution

/-- Can the text be handed to a program? The character zero ends text there. -/
def isPassable (s : String) : Bool :=
  s.toList.all fun c => c != '\x00'

/-- Run a program whose name, arguments and variables can be handed over. -/
def start (launch : Launcher) (i : Invocation) : Except String Execution :=
  if isPassable i.program && i.args.all isPassable && i.environment.all fun e => isPassable e.2 then
    launch i
  else .error "nul byte found in provided data"

/-! ### Reading from a pipe -/

namespace Pipe

/-- Read once, with room for a number of bytes: what is read, and what is still to come. With room
there is always something to read before the end. -/
def readOnce (room : Nat) : Pipe → Bytes × Pipe
  | [] => ([], [])
  | [] :: rest => readOnce room rest
  | (b :: piece) :: rest => ((b :: piece).take room, (b :: piece).drop room :: rest)

theorem length_readOnce_le (room : Nat) (pipe : Pipe) : (readOnce room pipe).1.length ≤ room := by
  fun_induction readOnce room pipe with
  | case1 => exact Nat.zero_le _
  | case2 rest ih => exact ih
  | case3 b piece rest => exact List.length_take_le _ _

/-- What is read stood at the front. -/
theorem readOnce_append (room : Nat) (pipe : Pipe) :
    (readOnce room pipe).1 ++ (readOnce room pipe).2.flatten = pipe.flatten := by
  fun_induction readOnce room pipe with
  | case1 => rfl
  | case2 rest ih => exact ih
  | case3 b piece rest =>
      rw [List.flatten_cons, List.flatten_cons, ← List.append_assoc, List.take_append_drop]

theorem room_pos_of_readOnce {room : Nat} {pipe rest : Pipe} {b : UInt8} {got : Bytes}
    (h : readOnce room pipe = (b :: got, rest)) : 0 < room := by
  have hle := length_readOnce_le room pipe
  rw [h] at hle
  exact Nat.lt_of_lt_of_le (Nat.succ_pos _) hle

theorem length_lt_of_readOnce {room : Nat} {pipe rest : Pipe} {b : UInt8} {got : Bytes}
    (h : readOnce room pipe = (b :: got, rest)) : rest.flatten.length < pipe.flatten.length := by
  have hall := readOnce_append room pipe
  simp only [h] at hall
  rw [← hall, List.length_append, List.length_cons]
  omega

/-- How much is read at once at most. -/
def bufferSize : Nat := 8192

/-- Read until nothing comes any more or a limit is reached: what is read, and what is still to
come. -/
def readUpTo (limit : Nat) (pipe : Pipe) : Bytes × Pipe :=
  match h : readOnce (min limit bufferSize) pipe with
  | ([], rest) => ([], rest)
  | (b :: got, rest) =>
    have := room_pos_of_readOnce h
    let (more, rest) := readUpTo (limit - (b :: got).length) rest
    (b :: got ++ more, rest)
termination_by limit
decreasing_by
  simp only [List.length_cons]
  omega

/-- Read to the end and count the bytes. -/
def drain (pipe : Pipe) : Nat :=
  match h : readOnce bufferSize pipe with
  | ([], _) => 0
  | (b :: got, rest) =>
    have := length_lt_of_readOnce h
    (b :: got).length + drain rest
termination_by pipe.flatten.length
decreasing_by exact this

end Pipe

/-! ### Bounded output -/

/-- What is kept of an output. -/
structure Captured where
  /-- The first bytes. -/
  bytes : Bytes := []
  /-- The number of further bytes. -/
  truncated : Nat := 0
deriving Repr, Inhabited

namespace Captured

/-- What is kept of an output under a limit. The pipe is read to its end, so that the program can
write all it has. -/
def ofPipe (limit : Nat) (pipe : Pipe) : Captured :=
  let (bytes, rest) := pipe.readUpTo limit
  ⟨bytes, rest.drain⟩

/-- The text of what is kept, without the blanks around it. Bytes that are no UTF-8 are replaced. -/
def text (c : Captured) : String :=
  String.ofList (Text.trim (Text.decodeLenient c.bytes))

end Captured

/-- What is kept of a run. -/
structure CommandOutput where
  /-- How the program ended. -/
  status : ExitStatus
  /-- Its output. -/
  stdout : Captured
  /-- Its messages. -/
  stderr : Captured
  /-- Was it ended because its time was over? -/
  timedOut : Bool
deriving Repr, Inhabited

/-- Why a run is no success. -/
inductive RunFault where
  /-- Its time was over. -/
  | timedOut
  /-- It ended with a complaint. -/
  | ended (status : ExitStatus) (stderr : String)
  /-- There was more output than is kept. -/
  | exceeded (bytes : Nat)
deriving DecidableEq, Repr

/-- The message for a run of the given name. -/
def RunFault.message (label : String) : RunFault → String
  | .timedOut => label ++ " timed out"
  | .ended status stderr => label ++ " exited with " ++ status.words ++ ": " ++ stderr
  | .exceeded bytes =>
    label ++ " output exceeded the limit by " ++ String.ofList (Decimal.natDigits bytes) ++ " bytes"

namespace CommandOutput

/-- What is kept of a run under a limit. -/
def ofExecution (limit : Nat) (e : Execution) : CommandOutput :=
  ⟨e.status, .ofPipe limit e.stdout, .ofPipe limit e.stderr, e.timedOut⟩

/-- The first reason for which the run is no success. -/
def fault? (o : CommandOutput) : Option RunFault :=
  if o.timedOut then some .timedOut
  else if !o.status.isSuccess then some (.ended o.status o.stderr.text)
  else if o.stdout.truncated ≠ 0 then some (.exceeded o.stdout.truncated)
  else none

/-- The run, if it is a success. -/
def ensureSuccess (label : String) (o : CommandOutput) : Except String CommandOutput :=
  match o.fault? with
  | none => .ok o
  | some fault => .error (fault.message label)

end CommandOutput

/-- The name under which a program is reported. -/
def reportedName (program : String) : String :=
  if isPassable program then program else "<string-with-nul>"

/-- Run a program and keep what a limit allows of each output. -/
def runBounded (launch : Launcher) (limit : Nat) (i : Invocation) : Except String CommandOutput :=
  match start launch i with
  | .error reason => .error ("spawn " ++ Text.quote (reportedName i.program) ++ ": " ++ reason)
  | .ok e => .ok (.ofExecution limit e)

end ClusterTuning.Program
