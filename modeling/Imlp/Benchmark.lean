import Mathlib.Algebra.BigOperators.Intervals
import Imlp.System.Refinement

/-!
# The benchmark

Rendering of `apps/benchmark_main.cpp` without its clock: `run_sample` sends reads through
`encode`, `MemoryServer::handle` and `decode` and adds up what comes back, and stops with -1.0
when one of the three fails. The checksum is computed here for any number of passes; for the
numbers of the program it is the one that `reports/performance.json` records.
-/

namespace Imlp
open MemoryServer

namespace Benchmark

/-- `samples` (`benchmark_main.cpp:23`). -/
def samples : Nat := 5

/-- `operations_per_sample` (`benchmark_main.cpp:24`). -/
def operationsPerSample : Nat := 50000

/-- The request of one pass (`benchmark_main.cpp:31-37`). -/
def request (index : Nat) : Frame where
  opcode := .readRequest
  requestId := BitVec.ofNat 32 (index + 1)
  address := BitVec.ofNat 32 (index % 128)
  payload := [0#8, 16#8]

/-- One pass of the loop of `run_sample` (`benchmark_main.cpp:31-44`). The first component is
    false when -1.0 is returned. -/
def samplePass (index : Nat) (server : MemoryServer) (checksum : BitVec 64) :
    Bool × MemoryServer × BitVec 64 :=
  let encoded := encode (request index)
  if !encoded.toBool then (false, server, checksum)
  else
    let (handled, server) := server.handle encoded.bytes
    let decoded := decode handled.response
    match decoded.toBool, decoded.frame with
    | true, some frame =>
      (true, server,
        checksum + frame.requestId.setWidth 64 + BitVec.ofNat 64 frame.payload.length)
    | _, _ => (false, server, checksum)

/-- The loop of `run_sample` (`benchmark_main.cpp:30-45`) from `index` on, with `remaining`
    passes left. -/
def samplePasses : Nat → Nat → MemoryServer → BitVec 64 → Bool × MemoryServer × BitVec 64
  | 0, _, server, checksum => (true, server, checksum)
  | remaining + 1, index, server, checksum =>
    let (passed, server, checksum) := samplePass index server checksum
    if !passed then (false, server, checksum)
    else samplePasses remaining (index + 1) server checksum

/-- `run_sample` (`benchmark_main.cpp:28-48`) for any number of operations. -/
def runSample (operations : Nat) (server : MemoryServer) (checksum : BitVec 64) :
    Bool × MemoryServer × BitVec 64 :=
  samplePasses operations 0 server checksum

/-- The loop over the samples in `main` (`benchmark_main.cpp:58-64`): the exit code and the
    checksum that is printed after it. -/
def runSamples (operations : Nat) : Nat → MemoryServer → BitVec 64 → Nat × Option (BitVec 64)
  | 0, _, checksum => (0, some checksum)
  | remaining + 1, server, checksum =>
    let (measured, server, checksum) := runSample operations server checksum
    if !measured then (1, none)
    else runSamples operations remaining server checksum

/-- `main` (`benchmark_main.cpp:54-82`). -/
def main : Nat × Option (BitVec 64) :=
  runSamples operationsPerSample samples (.new {}) 0#64

theorem request_eq (index : Nat) :
    request index = Client.readRequest (BitVec.ofNat 32 (index + 1))
      (BitVec.ofNat 32 (index % 128)) 16 := rfl

theorem request_encodable (index : Nat) : Encodable (request index) := by
  rw [request_eq]
  exact readRequest_encodable _ _ _

/-- Every server answers the reads of the benchmark with sixteen bytes. -/
theorem answer_request (server : MemoryServer) (index : Nat) :
    (server.answer (request index)).payload.length = 16 := by
  have address : (BitVec.ofNat 32 (index % 128)).toNat = index % 128 := by
    rw [BitVec.toNat_ofNat]
    omega
  have range : ¬ MemoryMap.OutOfRange (index % 128) 16 := by
    simp only [MemoryMap.OutOfRange]
    omega
  have small : 16 ≤ maximumPayloadSize := by decide
  rw [request_eq, answer_readRequest server _ _ small, address, answerRead, if_neg range,
    if_neg (by omega)]
  exact (List.length_map _).trans List.length_range'

/-- One pass leaves the server alone and adds its request identifier and sixteen. -/
theorem samplePass_eq (index : Nat) (server : MemoryServer) (checksum : BitVec 64) :
    samplePass index server checksum =
      (true, server, checksum + BitVec.ofNat 64 ((index + 1) % 2 ^ 32 + 16)) := by
  have valid := request_encodable index
  have decoded := (decode_ok_iff (wireBytes (request index)) (request index)).mpr ⟨valid, rfl⟩
  have answered := decode_answer server (request index)
  have read : (request index).opcode ≠ .writeRequest := by
    intro write
    cases write
  have identifier : (BitVec.ofNat 32 (index + 1)).setWidth 64 =
      BitVec.ofNat 64 ((index + 1) % 2 ^ 32) := by
    apply BitVec.eq_of_toNat_eq
    rw [BitVec.toNat_setWidth, BitVec.toNat_ofNat, BitVec.toNat_ofNat]
  have sum : checksum + (BitVec.ofNat 32 (index + 1)).setWidth 64 +
      BitVec.ofNat 64 (server.answer (request index)).payload.length =
      checksum + BitVec.ofNat 64 ((index + 1) % 2 ^ 32 + 16) := by
    rw [identifier, answer_request, BitVec.add_assoc, ← BitVec.ofNat_add]
  have accepted : ({ bytes := wireBytes (request index) } : EncodeResult).toBool = true := rfl
  rw [samplePass, encode_eq_of_encodable valid, handle_of_decoded server decoded,
    after_of_not_write read, accepted, if_neg (by decide), ← sum]
  simp only [reply, decode_toBool answered, answered]
  rfl

/-- What the passes from `index` on add to the checksum. -/
def total (index operations : Nat) : Nat :=
  ∑ i ∈ Finset.range operations, ((index + i + 1) % 2 ^ 32 + 16)

theorem samplePasses_eq (operations index : Nat) (server : MemoryServer)
    (checksum : BitVec 64) :
    samplePasses operations index server checksum =
      (true, server, checksum + BitVec.ofNat 64 (total index operations)) := by
  induction operations generalizing index checksum with
  | zero =>
    rw [samplePasses, total, Finset.range_zero, Finset.sum_empty]
    exact congrArg (fun sum => (true, server, sum)) (BitVec.add_zero checksum).symm
  | succ operations ih =>
    have split : total index (operations + 1) =
        (index + 1) % 2 ^ 32 + 16 + total (index + 1) operations := by
      rw [total, Finset.sum_range_succ', Nat.add_comm, total]
      congr 1
      refine Finset.sum_congr rfl fun i _ => ?_
      rw [show index + (i + 1) + 1 = index + 1 + i + 1 by omega]
    rw [samplePasses, samplePass_eq]
    simp only [Bool.not_true, Bool.false_eq_true, if_false]
    rw [ih, split, BitVec.ofNat_add _ (total (index + 1) operations),
      ← BitVec.add_assoc]

/-- Below the wrap of the request identifiers the sum has a closed form. -/
theorem total_eq {operations : Nat} (bounded : operations < 2 ^ 32) :
    total 0 operations = operations * (operations + 1) / 2 + 16 * operations := by
  have plain : total 0 operations = ∑ i ∈ Finset.range operations, (i + 1 + 16) := by
    refine Finset.sum_congr rfl fun i member => ?_
    rw [Nat.zero_add, Nat.mod_eq_of_lt]
    have := Finset.mem_range.mp member
    omega
  have triangle := Finset.sum_range_id_mul_two (operations + 1)
  rw [Finset.sum_range_succ'] at triangle
  have sixteens : ∑ _i ∈ Finset.range operations, 16 = 16 * operations := by
    rw [Finset.sum_const_nat fun _ _ => rfl, Finset.card_range, Nat.mul_comm]
  rw [plain, Finset.sum_add_distrib, sixteens]
  rw [Nat.add_zero, Nat.add_sub_cancel, Nat.mul_comm (operations + 1)] at triangle
  omega

theorem runSamples_eq (operations remaining : Nat) (server : MemoryServer)
    (checksum : BitVec 64) :
    runSamples operations remaining server checksum =
      (0, some (checksum + BitVec.ofNat 64 (remaining * total 0 operations))) := by
  induction remaining generalizing checksum with
  | zero =>
    rw [runSamples, Nat.zero_mul]
    exact congrArg (fun sum => (0, some sum)) (BitVec.add_zero checksum).symm
  | succ remaining ih =>
    rw [runSamples, runSample, samplePasses_eq]
    simp only [Bool.not_true, Bool.false_eq_true, if_false]
    rw [ih, Nat.succ_mul, Nat.add_comm _ (total 0 operations), BitVec.ofNat_add,
      ← BitVec.add_assoc]

/-- The benchmark validates the protocol. On every server, in any state and under any policy,
no number of passes fails, the server is left as it was, and the checksum grows by exactly the
identifiers and payload sizes of the requests; so the program exits with 0 and prints a
checksum that is known in advance. -/
theorem benchmark_checksum_exact (operations remaining : Nat) (server : MemoryServer)
    (checksum : BitVec 64) :
    runSample operations server checksum =
      (true, server, checksum + BitVec.ofNat 64 (total 0 operations)) ∧
    runSamples operations remaining server checksum =
      (0, some (checksum + BitVec.ofNat 64 (remaining * total 0 operations))) ∧
    (operations < 2 ^ 32 →
      total 0 operations = operations * (operations + 1) / 2 + 16 * operations) ∧
    main = (0, some 6254125000#64) := by
  refine ⟨samplePasses_eq operations 0 server checksum,
    runSamples_eq operations remaining server checksum, total_eq, ?_⟩
  rw [main, runSamples_eq, total_eq (by decide)]
  decide

end Benchmark

end Imlp
