import ClusterTuning.Generation
import ClusterTuning.Proofs.Json.Control
import ClusterTuning.Proofs.Program
import Mathlib.Control.Monad.Basic

/-!
# ClusterTuning.Proofs.Generation

**A command delivers all of its output, or it has failed.**

Half of a list of manifests mostly is a list of manifests too, so nothing behind the command could
tell that some are missing. Whether all of the output was kept is looked at where the run is judged,
and nowhere else.

## Main statement

* `commandGenerator_complete`: what is kept of an output, which runs deliver, and that all others
  fail.
-/

namespace ClusterTuning.Generation

/-- The command can be handed over, was launched for the application, ended in time and with exit
code zero, and wrote no more than is allowed. The data are all that it wrote to its output; what it
wrote to its messages does not matter. -/
def Delivers (settings : GeneratorSettings) (launch : Program.Launcher) (app : Application)
    (data : Bytes) : Prop :=
  ∃ program args run, settings.command = program :: args ∧
    (∀ text ∈ program :: args, '\x00' ∉ text.toList) ∧
    launch (invocation program args app) = .ok run ∧
    run.timedOut = false ∧ run.status = .exited 0 ∧
    run.stdout.flatten.length ≤ settings.outputLimit ∧ data = run.stdout.flatten

/-- The selectors are written as JSON, so they can always be handed over. -/
theorem start_invocation_eq_ok_iff {launch : Program.Launcher} {program : String}
    {args : List String} {app : Application} {run : Program.Execution} :
    Program.start launch (invocation program args app) = .ok run ↔
      (∀ text ∈ program :: args, '\x00' ∉ text.toList) ∧
        launch (invocation program args app) = .ok run := by
  have henvironment : ∀ entry ∈ (invocation program args app).environment,
      '\x00' ∉ entry.2.toList := by
    intro entry hentry hzero
    obtain rfl := List.mem_singleton.mp hentry
    exact absurd (Json.not_control_of_mem_write hzero) (by decide)
  rw [Program.start_eq_ok_iff]
  exact and_congr_right fun _ => and_iff_right henvironment

/-- Output is delivered exactly if the program was started, ended by itself with zero before its
time was up, and wrote no more than the limit. Then all of it is delivered. -/
theorem outputOf_runBounded_eq_ok_iff {program : String} {launch : Program.Launcher}
    {limit : Nat} {i : Program.Invocation} {data : Bytes} :
    outputOf program (Program.runBounded launch limit i) = .ok data ↔
      ∃ run, Program.start launch i = .ok run ∧ run.timedOut = false ∧ run.status = .exited 0 ∧
        run.stdout.flatten.length ≤ limit ∧ data = run.stdout.flatten := by
  rw [Program.runBounded]
  cases hstart : Program.start launch i with
  | error reason => simp [outputOf, Except.bind]
  | ok run =>
      rw [outputOf, Except.bind]
      constructor
      · intro h
        split at h
        · rename_i output hsuccess
          obtain ⟨hfault, rfl⟩ := Program.CommandOutput.ensureSuccess_eq_ok_iff.mp hsuccess
          obtain ⟨htime, hstatus, hlimit⟩ :=
            Program.CommandOutput.fault?_ofExecution_eq_none_iff.mp hfault
          rw [Program.CommandOutput.bytes_ofExecution hlimit] at h
          exact ⟨run, rfl, htime, hstatus, hlimit, (Except.ok.inj h).symm⟩
        · cases h
      · rintro ⟨same, hsame, htime, hstatus, hlimit, rfl⟩
        obtain rfl := Except.ok.inj hsame
        have hfault := Program.CommandOutput.fault?_ofExecution_eq_none_iff.mpr
          ⟨htime, hstatus, hlimit⟩
        rw [Program.CommandOutput.ensureSuccess_eq_ok_iff.mpr ⟨hfault, rfl⟩]
        exact congrArg Except.ok (Program.CommandOutput.bytes_ofExecution hlimit)

/-- A generator delivers its output or fails as such. -/
theorem outputOf_eq_ok_or_error (program : String)
    (run : Except String Program.CommandOutput) :
    (∃ data, outputOf program run = .ok data) ∨
      ∃ detail, outputOf program run = .error (.render "generator" detail) := by
  rw [outputOf]
  split
  · exact Or.inl ⟨_, rfl⟩
  · exact Or.inr ⟨_, rfl⟩

/-- What is kept of an output are the first bytes that the limit allows, and all others are counted.
The command generator gives the whole output of a run that was a success, and fails in every other
case. -/
theorem commandGenerator_complete (settings : GeneratorSettings) (launch : Program.Launcher)
    (app : Application) :
    (∀ limit pipe, Program.Captured.Of limit pipe.flatten (.ofPipe limit pipe)) ∧
      (∀ data, commandGenerator settings launch app = .ok data ↔
        Delivers settings launch app data) ∧
      ((∃ data, commandGenerator settings launch app = .ok data) ∨
        ∃ detail, commandGenerator settings launch app = .error (.render "generator" detail)) := by
  refine ⟨Program.Captured.of_ofPipe, ?_⟩
  rw [commandGenerator]
  cases hcommand : settings.command with
  | nil => simp [Delivers, hcommand, failure]
  | cons program args =>
      constructor
      · intro data
        rw [outputOf_runBounded_eq_ok_iff, Delivers, hcommand]
        constructor
        · rintro ⟨run, hstart, hrun⟩
          obtain ⟨hpassable, hlaunch⟩ := start_invocation_eq_ok_iff.mp hstart
          exact ⟨program, args, run, rfl, hpassable, hlaunch, hrun⟩
        · rintro ⟨program', args', run, heq, hpassable, hlaunch, hrun⟩
          cases heq
          exact ⟨run, start_invocation_eq_ok_iff.mpr ⟨hpassable, hlaunch⟩, hrun⟩
      · exact outputOf_eq_ok_or_error _ _

/-! ### A generator, as an instance -/

/-- An application of which only the name is known. -/
def shop : Application where
  apiVersion := "apps.trialctl.dev/v1alpha1"
  kind := "Application"
  metadata := { name := "shop" }

/-- Answers the call for this application, and no other. -/
def shopLauncher (run : Program.Execution) : Program.Launcher := fun i =>
  if i.program = "make" ∧ i.args = ["-f", "-"] ∧
      i.stdin = some (Text.encode ("apiVersion: apps.trialctl.dev/v1alpha1\nkind: Application\n" ++
        "metadata:\n  name: shop\n")) ∧
      i.environment = [("TRIALCTL_CONTAINER_SELECTORS",
        "[\x7b\"apiVersion\":\"apps/v1\",\"kind\":\"Deployment\"\x7d," ++
          "\x7b\"apiVersion\":\"apps/v1\",\"kind\":\"StatefulSet\"\x7d]")] then .ok run
  else .error "no such file"

/-- A run that writes six bytes in two pieces, and more than that to its messages. -/
def shopRun : Program.Execution where
  status := .exited 0
  stdout := [Text.encode "kin", Text.encode "d: "]
  stderr := [Text.encode "reading\n", Text.encode "writing\n"]
  timedOut := false

/-- The output is given where six bytes are allowed, and not where five are, or where the run was
ended. -/
theorem commandGenerator_complete_shop :
    commandGenerator { command := ["make", "-f", "-"], outputLimit := 6 } (shopLauncher shopRun)
        shop = .ok (Text.encode "kind: ") ∧
      commandGenerator { command := ["make", "-f", "-"], outputLimit := 5 } (shopLauncher shopRun)
        shop = .error (.render "generator" "make output exceeded the limit by 1 bytes") ∧
      commandGenerator { command := ["make", "-f", "-"], outputLimit := 6 }
        (shopLauncher { shopRun with timedOut := true }) shop =
          .error (.render "generator" "make timed out") ∧
      Program.Captured.ofPipe 5 shopRun.stdout = ⟨Text.encode "kind:", 1⟩ := by
  have hlaunch : shopLauncher shopRun (invocation "make" ["-f", "-"] shop) = .ok shopRun := by
    refine if_pos ⟨rfl, rfl, ?_, ?_⟩ <;> decide +kernel
  have hdelivers : Delivers { command := ["make", "-f", "-"], outputLimit := 6 }
      (shopLauncher shopRun) shop (Text.encode "kind: ") :=
    ⟨"make", ["-f", "-"], shopRun, rfl, by decide +kernel, hlaunch, rfl, rfl, by decide, by decide⟩
  refine ⟨((commandGenerator_complete _ _ _).2.1 _).mpr hdelivers, ?_, ?_, ?_⟩
  · decide +kernel
  · decide +kernel
  · rw [Program.Captured.ofPipe_eq]
    exact congrArg₂ Program.Captured.mk (by decide) (by decide)

end ClusterTuning.Generation
