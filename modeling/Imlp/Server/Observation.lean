import Mathlib.Order.Interval.Set.Defs
import Mathlib.Data.Nat.Basic
import Imlp.Server.Isolation

/-!
# What can be observed of a server

A client sees of a server only its responses. Two servers are told apart by them exactly when
they differ in a readable byte or treat some write differently, and one request is enough to
show it; longer runs and the events tell nothing more. Policies that look different may still
treat all writes alike: with writes disabled the allowlist does not matter, and all empty
allowlists are the same.
-/

namespace Imlp
open MemoryServer

/-- The addresses on the allowlist of a policy. -/
def allowlist (policy : ServerPolicy) : Set Nat :=
  Set.Icc policy.writeAllowBegin.toNat policy.writeAllowEnd.toNat

/-- The two policies treat every write alike. -/
structure AlikePolicies (left right : ServerPolicy) : Prop where
  enabled : left.writesEnabled = right.writesEnabled
  allowed : left.writesEnabled = true → allowlist left = allowlist right

/-- The two servers cannot be told apart. -/
structure AlikeServers (left right : MemoryServer) : Prop where
  policy : AlikePolicies left.policy right.policy
  memory : ∀ index, index < 0x800 → left.memory.byte index = right.memory.byte index

/-- An interval lies in the allowlist when its two ends do. -/
theorem inAllowlist_iff (policy : ServerPolicy) {start length : Nat} (positive : 0 < length) :
    InAllowlist policy start length ↔
      start ∈ allowlist policy ∧ start + length - 1 ∈ allowlist policy := by
  simp only [InAllowlist, allowlist, Set.mem_Icc]
  omega

theorem AlikePolicies.inAllowlist_iff {left right : ServerPolicy}
    (alike : AlikePolicies left right) (enabled : left.writesEnabled = true) {start length : Nat}
    (positive : 0 < length) : InAllowlist left start length ↔ InAllowlist right start length := by
  rw [Imlp.inAllowlist_iff left positive, Imlp.inAllowlist_iff right positive,
    alike.allowed enabled]

theorem AlikePolicies.writeAuthorised_iff {left right : ServerPolicy}
    (alike : AlikePolicies left right) {start length : Nat} (positive : 0 < length) :
    WriteAuthorised left start length ↔ WriteAuthorised right start length := by
  unfold WriteAuthorised
  rw [← alike.enabled]
  exact and_congr_right fun enabled =>
    and_congr_left' (alike.inAllowlist_iff enabled positive)

theorem AlikePolicies.answerWrite_eq {left right : ServerPolicy}
    (alike : AlikePolicies left right) {start length : Nat} (positive : 0 < length) :
    answerWrite left start length = answerWrite right start length := by
  unfold answerWrite
  rw [← alike.enabled]
  by_cases disabled : left.writesEnabled = false
  · rw [if_pos disabled, if_pos disabled]
  · have enabled : left.writesEnabled = true := by
      rwa [Bool.not_eq_false] at disabled
    rw [if_neg disabled, if_neg disabled,
      if_congr (not_congr (alike.inAllowlist_iff enabled positive)) rfl rfl]

/-- Servers with one memory and policies that are alike give the same answers. -/
theorem AlikePolicies.answer_eq {left right : ServerPolicy} (alike : AlikePolicies left right)
    (memory : MemoryMap) {request : Frame} (valid : Encodable request) :
    (MemoryServer.mk left memory).answer request =
      (MemoryServer.mk right memory).answer request := by
  unfold answer
  by_cases write : request.opcode = .writeRequest
  · rw [alike.answerWrite_eq (write_payload_pos valid write)]
    rfl
  · rw [if_neg write, if_neg write]
    rfl

/-- Servers with one memory and policies that are alike store the same bytes. -/
theorem AlikePolicies.after_memory {left right : ServerPolicy} (alike : AlikePolicies left right)
    (memory : MemoryMap) {request : Frame} (valid : Encodable request) :
    ((MemoryServer.mk left memory).after request).memory =
      ((MemoryServer.mk right memory).after request).memory := by
  by_cases write : request.opcode = .writeRequest
  · have same : WriteAuthorised left request.address.toNat request.payload.length ↔
        WriteAuthorised right request.address.toNat request.payload.length :=
      alike.writeAuthorised_iff (write_payload_pos valid write)
    by_cases authorised : WriteAuthorised left request.address.toNat request.payload.length
    · rw [after_of_authorised _ write authorised, after_of_authorised _ write (same.mp authorised)]
    · rw [after_of_not_authorised _ _ authorised,
        after_of_not_authorised _ _ (fun h => authorised (same.mpr h))]
  · rw [after_of_not_write write, after_of_not_write write]

/-- Allowlists hold the same addresses when their bounds are the same, or both are empty. -/
theorem allowlist_eq_iff (left right : ServerPolicy) :
    allowlist left = allowlist right ↔
      (left.writeAllowBegin = right.writeAllowBegin ∧ left.writeAllowEnd = right.writeAllowEnd) ∨
      (left.writeAllowEnd < left.writeAllowBegin ∧
        right.writeAllowEnd < right.writeAllowBegin) := by
  simp only [BitVec.toNat_eq, BitVec.lt_def]
  constructor
  · intro same
    have members : ∀ address, address ∈ allowlist left ↔ address ∈ allowlist right :=
      fun address => by rw [same]
    simp only [allowlist, Set.mem_Icc] at members
    have leftBegin := members left.writeAllowBegin.toNat
    have leftEnd := members left.writeAllowEnd.toNat
    have rightBegin := members right.writeAllowBegin.toNat
    have rightEnd := members right.writeAllowEnd.toNat
    omega
  · intro bounds
    ext address
    simp only [allowlist, Set.mem_Icc]
    omega

section AlikeServers

variable {left right : MemoryServer}

/-- The right server under the policy of the left one: only memory is left to compare. -/
theorem AlikeServers.under_left_policy (alike : AlikeServers left right) :
    Indistinguishable left { right with policy := left.policy } :=
  ⟨rfl, alike.memory⟩

theorem AlikeServers.answer_eq (alike : AlikeServers left right) {request : Frame}
    (valid : Encodable request) : left.answer request = right.answer request :=
  (alike.under_left_policy.answer request).trans (alike.policy.answer_eq right.memory valid)

theorem AlikeServers.after (alike : AlikeServers left right) {request : Frame}
    (valid : Encodable request) : AlikeServers (left.after request) (right.after request) where
  policy := by
    rw [after_policy, after_policy]
    exact alike.policy
  memory index below := by
    rw [(alike.under_left_policy.after request).memory index below]
    exact congrArg (MemoryMap.byte · index) (alike.policy.after_memory right.memory valid)

theorem AlikeServers.handle (alike : AlikeServers left right) (bytes : List Byte) :
    (left.handle bytes).1 = (right.handle bytes).1 ∧
      AlikeServers (left.handle bytes).2 (right.handle bytes).2 := by
  cases decoded : (decode bytes).frame with
  | none =>
    rw [handle_of_rejected left decoded, handle_of_rejected right decoded]
    exact ⟨rfl, alike⟩
  | some request =>
    have valid := ((decode_ok_iff bytes request).mp decoded).1
    rw [handle_of_decoded left decoded, handle_of_decoded right decoded, alike.answer_eq valid]
    exact ⟨rfl, alike.after valid⟩

theorem AlikeServers.results_eq (alike : AlikeServers left right)
    (requests : List (List Byte)) : left.results requests = right.results requests := by
  induction requests generalizing left right with
  | nil => rfl
  | cons bytes rest ih =>
    obtain ⟨result, next⟩ := alike.handle bytes
    rw [results, results, result, ih next]

end AlikeServers

theorem toNat_address {address : Nat} (small : address < 0x100000000) :
    (BitVec.ofNat 32 address).toNat = address := by
  rw [BitVec.toNat_ofNat]
  omega

section Probes

variable {left right : MemoryServer}
  (same : ∀ bytes, (left.handle bytes).1.response = (right.handle bytes).1.response)
include same

/-- The answers to a request can be compared when the responses can. -/
theorem answers_eq_of_responses_eq {request : Frame} (valid : Encodable request) :
    responseFrame request (left.answer request) = responseFrame request (right.answer request) := by
  have decoded := (decode_ok_iff (wireBytes request) request).mpr ⟨valid, rfl⟩
  have responses := same (wireBytes request)
  rw [handle_of_decoded left decoded, handle_of_decoded right decoded] at responses
  have first := decode_answer left request
  rw [show wireBytes (responseFrame request (left.answer request)) = _ from responses] at first
  exact Option.some.inj (first.symm.trans (decode_answer right request))

/-- A read of one byte shows it. -/
theorem byte_eq_of_responses_eq {index : Nat} (below : index < 0x800) :
    left.memory.byte index = right.memory.byte index := by
  let probe : Frame :=
    { opcode := .readRequest, address := BitVec.ofNat 32 index, payload := [0#8, 1#8] }
  have small : [0#8, 1#8].length ≤ maximumPayloadSize := by decide
  have valid : Encodable probe :=
    ⟨rfl, rfl, small, (hasValidSemantics_iff _).mpr (.readRequest rfl rfl rfl rfl)⟩
  have address : (BitVec.ofNat 32 index).toNat = index := toNat_address (by omega)
  have asked : requestedLength [0#8, 1#8] = 1 := by decide
  have range : ¬ MemoryMap.OutOfRange index 1 := by
    simp only [MemoryMap.OutOfRange]
    omega
  have shown : ∀ server : MemoryServer,
      (server.answer probe).payload = [server.memory.byte index] := by
    intro server
    have read : server.answer probe = server.answerRead (BitVec.ofNat 32 index).toNat
      (requestedLength [0#8, 1#8]) := rfl
    rw [read, address, asked, answerRead, if_neg range, if_neg (by omega)]
    rfl
  have payloads := congrArg Frame.payload (answers_eq_of_responses_eq same valid)
  have bytes : [left.memory.byte index] = [right.memory.byte index] := by
    rw [← shown left, ← shown right]
    exact payloads
  exact (List.cons.inj bytes).1

/-- A write of one byte shows how the policy treats its address. -/
theorem answerWrite_eq_of_responses_eq {address : Nat} (small : address < 0x100000000) :
    (answerWrite left.policy address 1).status = (answerWrite right.policy address 1).status ∧
      (answerWrite left.policy address 1).payload =
        (answerWrite right.policy address 1).payload := by
  let probe : Frame :=
    { opcode := .writeRequest, address := BitVec.ofNat 32 address, payload := [0#8] }
  have short : [0#8].length ≤ maximumPayloadSize := by decide
  have valid : Encodable probe :=
    ⟨rfl, rfl, short, (hasValidSemantics_iff _).mpr (.writeRequest rfl rfl rfl Nat.one_pos)⟩
  have shown : ∀ server : MemoryServer,
      server.answer probe = answerWrite server.policy address 1 := by
    intro server
    have write : server.answer probe =
      answerWrite server.policy (BitVec.ofNat 32 address).toNat 1 := rfl
    rw [write, toNat_address small]
  have frames := answers_eq_of_responses_eq same valid
  rw [shown left, shown right] at frames
  exact ⟨congrArg Frame.status frames, congrArg Frame.payload frames⟩

end Probes

/-- The status of a disabled write is its own. -/
theorem answerWrite_writeDisabled_iff (policy : ServerPolicy) (address : Nat) :
    (answerWrite policy address 1).status = .writeDisabled ↔ policy.writesEnabled = false := by
  unfold answerWrite
  split
  · rename_i disabled
    exact iff_of_true rfl disabled
  · rename_i enabled
    refine iff_of_false ?_ enabled
    repeat' split
    all_goals decide

/-- The text of a refusal tells whether the address is on the allowlist. -/
theorem answerWrite_outside_iff {policy : ServerPolicy} (enabled : policy.writesEnabled = true)
    (address : Nat) :
    (answerWrite policy address 1).payload = textPayload "outside_write_allowlist" ↔
      address ∉ allowlist policy := by
  have listed : InAllowlist policy address 1 ↔ address ∈ allowlist policy := by
    rw [inAllowlist_iff policy Nat.one_pos, Nat.add_sub_cancel, and_self_iff]
  unfold answerWrite
  rw [if_neg (by rw [enabled]; decide)]
  by_cases member : address ∈ allowlist policy
  · rw [if_neg (not_not.mpr (listed.mpr member))]
    refine iff_of_false ?_ (not_not.mpr member)
    repeat' split
    all_goals decide
  · rw [if_pos (fun inside => member (listed.mp inside))]
    exact iff_of_true rfl member

/-- Policies that answer every write of one byte alike treat every write alike. -/
theorem alikePolicies_of_answerWrite {left right : ServerPolicy}
    (same : ∀ address, address < 0x100000000 →
      (answerWrite left address 1).status = (answerWrite right address 1).status ∧
        (answerWrite left address 1).payload = (answerWrite right address 1).payload) :
    AlikePolicies left right := by
  have enabled : left.writesEnabled = right.writesEnabled := by
    have status := (same 0 (by decide)).1
    have first := answerWrite_writeDisabled_iff left 0
    rw [status, answerWrite_writeDisabled_iff] at first
    rw [Bool.eq_iff_iff, ← Bool.not_eq_false, ← Bool.not_eq_false, first]
  refine ⟨enabled, fun on => ?_⟩
  have on' : right.writesEnabled = true := enabled ▸ on
  ext address
  by_cases small : address < 0x100000000
  · have text := (same address small).2
    have first := answerWrite_outside_iff on address
    rw [text, answerWrite_outside_iff on'] at first
    exact (not_iff_not.mp first).symm
  · -- no allowlist reaches beyond the 32-bit addresses
    have bound := left.writeAllowEnd.isLt
    have bound' := right.writeAllowEnd.isLt
    simp only [allowlist, Set.mem_Icc]
    omega

/-- What can be observed of a server. Two servers give the same responses and events on every
sequence of byte strings exactly when they give the same response to every single one, and
exactly when their policies treat every write alike and their memories agree below `0x800`.
Policies treat every write alike when writes are disabled in both, or enabled in both with the
same bounds or with two empty allowlists. -/
theorem observation_determines_server (left right : MemoryServer) :
    ((∀ requests, left.results requests = right.results requests) ↔ AlikeServers left right) ∧
    ((∀ bytes, (left.handle bytes).1.response = (right.handle bytes).1.response) ↔
      AlikeServers left right) ∧
    (AlikePolicies left.policy right.policy ↔
      left.policy.writesEnabled = right.policy.writesEnabled ∧
      (left.policy.writesEnabled = true →
        (left.policy.writeAllowBegin = right.policy.writeAllowBegin ∧
          left.policy.writeAllowEnd = right.policy.writeAllowEnd) ∨
        (left.policy.writeAllowEnd < left.policy.writeAllowBegin ∧
          right.policy.writeAllowEnd < right.policy.writeAllowBegin))) := by
  have single : (∀ bytes, (left.handle bytes).1.response = (right.handle bytes).1.response) →
      AlikeServers left right := fun same =>
    ⟨alikePolicies_of_answerWrite fun _ small => answerWrite_eq_of_responses_eq same small,
      fun _ below => byte_eq_of_responses_eq same below⟩
  refine ⟨⟨?_, AlikeServers.results_eq⟩, ⟨single, fun alike bytes => ?_⟩, ?_⟩
  · intro same
    refine single fun bytes => ?_
    have first := (List.cons.inj (same [bytes])).1
    rw [first]
  · rw [(alike.handle bytes).1]
  · rw [← allowlist_eq_iff]
    exact ⟨fun alike => ⟨alike.enabled, alike.allowed⟩, fun fields => ⟨fields.1, fields.2⟩⟩

end Imlp
