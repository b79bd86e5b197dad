import ClusterTuning.Program

/-!
# ClusterTuning.Proofs.Program

**What is kept of the output of a program, and when a run is a success.**

A pipe hands out its bytes in the pieces in which they arrive, and the loops that read it see one
piece at a time. One read takes bytes from the front (`Pipe.readOnce_append`) and takes some as long
as there are any (`Pipe.flatten_eq_nil_of_readOnce`). So neither loop depends on the pieces: the
first one reads the first bytes up to the limit and leaves the others (`Pipe.readUpTo_eq`), and the
second one counts what is left (`Pipe.drain_eq`).

## Main statements

* `start_eq_ok_iff`: a run takes place where all text can be handed over and the program starts.
* `Captured.ofPipe_eq`: what is kept and what is counted, for any pieces.
* `CommandOutput.fault?_ofExecution_eq_none_iff`: which runs are a success.
-/

namespace ClusterTuning.Program

/-! ### Starting -/

/-- Text can be handed over if it is without the character zero. -/
theorem isPassable_iff {s : String} : isPassable s = true ↔ '\x00' ∉ s.toList := by
  rw [isPassable, List.all_eq_true]
  constructor
  · intro h hzero
    exact absurd (h _ hzero) (by decide)
  · intro h c hc
    rw [bne_iff_ne]
    rintro rfl
    exact h hc

/-- A program is started exactly if its name, its arguments and the variables of its environment
are without the character zero, and the launcher starts it. -/
theorem start_eq_ok_iff {launch : Launcher} {i : Invocation} {run : Execution} :
    start launch i = .ok run ↔
      (∀ text ∈ i.program :: i.args, '\x00' ∉ text.toList) ∧
        (∀ entry ∈ i.environment, '\x00' ∉ entry.2.toList) ∧ launch i = .ok run := by
  have hpassable : (isPassable i.program && i.args.all isPassable &&
      i.environment.all fun e => isPassable e.2) = true ↔
        (∀ text ∈ i.program :: i.args, '\x00' ∉ text.toList) ∧
          ∀ entry ∈ i.environment, '\x00' ∉ entry.2.toList := by
    simp only [Bool.and_eq_true, List.all_eq_true, isPassable_iff, List.forall_mem_cons]
  rw [start, ← and_assoc, ← hpassable]
  split
  · rename_i h
    exact (and_iff_right h).symm
  · rename_i h
    refine iff_of_false (fun hrun => ?_) fun hall => h hall.1
    cases hrun

namespace Pipe

/-! ### One read -/

/-- Where there is room, nothing is read only at the end. -/
theorem flatten_eq_nil_of_readOnce {room : Nat} {pipe rest : Pipe} (hroom : 0 < room)
    (h : readOnce room pipe = ([], rest)) : pipe.flatten = [] := by
  fun_induction readOnce room pipe with
  | case1 => rfl
  | case2 more ih => exact ih h
  | case3 b piece more =>
      have htake : (b :: piece).take room = [] := congrArg Prod.fst h
      rw [List.take_eq_nil_iff] at htake
      rcases htake with hzero | hnil
      · omega
      · cases hnil

theorem bufferSize_pos : 0 < bufferSize := by decide

/-! ### The loops -/

/-- The bytes up to the limit are read, and the others are still to come. -/
theorem readUpTo_eq (limit : Nat) (pipe : Pipe) :
    (readUpTo limit pipe).1 = pipe.flatten.take limit ∧
      (readUpTo limit pipe).2.flatten = pipe.flatten.drop limit := by
  fun_induction readUpTo limit pipe with
  | case1 limit pipe rest h =>
      have hall := readOnce_append (min limit bufferSize) pipe
      simp only [h, List.nil_append] at hall
      -- the loop ends at the limit or at the end of the pipe
      rcases Nat.eq_zero_or_pos limit with rfl | hlimit
      · simp [hall]
      · have hroom : 0 < min limit bufferSize := Nat.lt_min.mpr ⟨hlimit, bufferSize_pos⟩
        have hend := flatten_eq_nil_of_readOnce hroom h
        rw [hend] at hall
        simp [hend, hall]
  | case2 limit pipe b got rest h hpos more left hmore ih =>
      have hall := readOnce_append (min limit bufferSize) pipe
      have hlength := length_readOnce_le (min limit bufferSize) pipe
      simp only [h] at hall hlength
      have hle : (b :: got).length ≤ limit := Nat.le_trans hlength (Nat.min_le_left _ _)
      rw [hmore] at ih
      obtain ⟨htake, hdrop⟩ := ih
      constructor
      · rw [← hall, List.take_append, List.take_of_length_le hle, ← htake]
      · rw [← hall, List.drop_append, List.drop_of_length_le hle, List.nil_append, ← hdrop]

/-- What is left in the pipe is counted to its end, in whatever pieces it comes. -/
theorem drain_eq (pipe : Pipe) : pipe.drain = pipe.flatten.length := by
  fun_induction drain pipe with
  | case1 pipe rest h =>
      rw [flatten_eq_nil_of_readOnce bufferSize_pos h]
      rfl
  | case2 pipe b got rest h hlt ih =>
      have hall := readOnce_append bufferSize pipe
      simp only [h] at hall
      rw [← hall, List.length_append, ih]

end Pipe

/-! ### What is kept -/

/-- The first bytes up to the limit are kept, and the others are counted. -/
theorem Captured.ofPipe_eq (limit : Nat) (pipe : Pipe) :
    ofPipe limit pipe = ⟨pipe.flatten.take limit, pipe.flatten.length - limit⟩ := by
  obtain ⟨hbytes, hrest⟩ := pipe.readUpTo_eq limit
  show Captured.mk (pipe.readUpTo limit).1 (pipe.readUpTo limit).2.drain = _
  rw [hbytes, Pipe.drain_eq, hrest, List.length_drop]

/-- What is kept, and the number of the bytes that are not: a front of all that came, no shorter
than it has to be. -/
structure Captured.Of (limit : Nat) (all : Bytes) (c : Captured) : Prop where
  /-- The rest is counted. -/
  exists_rest : ∃ rest, all = c.bytes ++ rest ∧ c.truncated = rest.length
  /-- As much is kept as there is and may be. -/
  length_eq : c.bytes.length = min limit all.length

theorem Captured.of_ofPipe (limit : Nat) (pipe : Pipe) :
    Captured.Of limit pipe.flatten (ofPipe limit pipe) := by
  rw [ofPipe_eq]
  refine ⟨⟨pipe.flatten.drop limit, ?_, ?_⟩, ?_⟩
  · exact (List.take_append_drop limit _).symm
  · exact List.length_drop.symm
  · exact List.length_take

/-! ### Runs -/

theorem ExitStatus.isSuccess_iff {status : ExitStatus} :
    status.isSuccess = true ↔ status = .exited 0 := by
  cases status <;> simp [isSuccess]

/-- A run is a success if it ended in time and without complaint, and its output is all there. Its
messages may be as long as they like. -/
theorem CommandOutput.fault?_ofExecution_eq_none_iff {limit : Nat} {run : Execution} :
    (ofExecution limit run).fault? = none ↔
      run.timedOut = false ∧ run.status = .exited 0 ∧ run.stdout.flatten.length ≤ limit := by
  rw [fault?, ofExecution, Captured.ofPipe_eq, ← ExitStatus.isSuccess_iff]
  cases run.timedOut <;> cases run.status.isSuccess <;> simp [Nat.sub_eq_zero_iff_le]

theorem CommandOutput.ensureSuccess_eq_ok_iff {label : String} {o output : CommandOutput} :
    o.ensureSuccess label = .ok output ↔ o.fault? = none ∧ output = o := by
  rw [ensureSuccess]
  cases o.fault? with
  | none => simp [eq_comm]
  | some fault => simp

/-- All output is kept where it is no longer than the limit. -/
theorem CommandOutput.bytes_ofExecution {limit : Nat} {run : Execution}
    (h : run.stdout.flatten.length ≤ limit) :
    (ofExecution limit run).stdout.bytes = run.stdout.flatten := by
  rw [ofExecution, Captured.ofPipe_eq]
  exact List.take_of_length_le h

end ClusterTuning.Program
