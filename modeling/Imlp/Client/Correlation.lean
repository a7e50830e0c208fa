import Imlp.Client.Discipline

/-!
# Stale replies

The identifiers of a client run through all nonzero 32-bit values in a cycle of
`2 ^ 32 - 1`.
Every operation takes one, valid or not, and retries take none, so two operations of a session
that are closer than one cycle have different identifiers. A reply that one of them accepts
carries its identifier and is a correlation mismatch for the other.
-/

namespace Imlp
namespace Client

variable {σ : Type} {transport : ITransport σ}

theorem followingId_toNat {current : BitVec 32} (nonzero : current ≠ 0#32) :
    (followingId current).toNat = current.toNat % 0xFFFFFFFF + 1 := by
  have positive : current.toNat ≠ 0 := fun zero => nonzero (BitVec.eq_of_toNat_eq zero)
  have bound := current.isLt
  have next : (current + 1#32).toNat = (current.toNat + 1) % 0x100000000 :=
    BitVec.toNat_add _ _
  unfold followingId
  split
  · rename_i wrapped
    rw [wrapped, BitVec.toNat_ofNat] at next
    have last : current.toNat = 0xFFFFFFFF := by omega
    rw [last]
    rfl
  · rename_i notWrapped
    have inside : current.toNat + 1 < 0x100000000 := by
      by_contra outside
      apply notWrapped
      apply BitVec.eq_of_toNat_eq
      rw [next, show current.toNat + 1 = 0x100000000 by omega, Nat.mod_self]
      rfl
    rw [next, Nat.mod_eq_of_lt inside, Nat.mod_eq_of_lt (by omega)]

/-- The identifier `count` operations later. -/
theorem iterate_followingId_toNat {first : BitVec 32} (nonzero : first ≠ 0#32) (count : Nat) :
    followingId^[count] first ≠ 0#32 ∧
      (followingId^[count] first).toNat = (first.toNat - 1 + count) % 0xFFFFFFFF + 1 := by
  induction count with
  | zero =>
    have positive : first.toNat ≠ 0 := fun zero => nonzero (BitVec.eq_of_toNat_eq zero)
    have bound := first.isLt
    refine ⟨nonzero, ?_⟩
    rw [Function.iterate_zero, id, Nat.add_zero, Nat.mod_eq_of_lt (by omega)]
    omega
  | succ count ih =>
    rw [Function.iterate_succ_apply']
    refine ⟨followingId_ne_zero _, ?_⟩
    rw [followingId_toNat ih.1, ih.2, Nat.mod_add_mod, Nat.add_assoc]

/-- Two identifiers less than one cycle apart are different. -/
theorem iterate_followingId_ne {first : BitVec 32} (nonzero : first ≠ 0#32) {i j : Nat}
    (different : i ≠ j) (near : i < j + 0xFFFFFFFF) (near' : j < i + 0xFFFFFFFF) :
    followingId^[i] first ≠ followingId^[j] first := by
  intro same
  have values := congrArg BitVec.toNat same
  rw [(iterate_followingId_toNat nonzero i).2, (iterate_followingId_toNat nonzero j).2] at values
  omega

/-- The identifier of the operation at a position of a session. -/
theorem session_requestId (transport : ITransport σ) {client : Client} {state : σ}
    {ops : List ClientOp} {position : Nat} {outcome : Outcome}
    (found : (session transport client state ops)[position]? = some outcome) :
    outcome.result.requestId = followingId^[position] client.nextRequestId := by
  induction position generalizing client state ops with
  | zero =>
    cases ops with
    | nil => cases found
    | cons op ops =>
      rw [session, List.getElem?_cons_zero] at found
      obtain rfl := Option.some.inj found
      exact perform_requestId transport client state op
  | succ position ih =>
    cases ops with
    | nil => cases found
    | cons op ops =>
      rw [session, List.getElem?_cons_succ] at found
      rw [ih found, (perform_keeps transport client state op).2, Function.iterate_succ_apply]

/-- One of the calls is an exchange that returned these bytes without a transport error. -/
def Returned (calls : List Call) (bytes : List Byte) : Prop :=
  ∃ request deadline, Call.exchange request deadline { error := .none, bytes := bytes } ∈ calls

/-- What a returned byte string tells about the operation it was returned to. -/
structure Correlated (outcome : Outcome) : Prop where
  attributed : ∀ bytes, Returned outcome.calls bytes →
    outcome.result.error = .none ∨ outcome.result.error = .remoteError →
    ∃ frame, (decode bytes).frame = some frame ∧ frame.requestId = outcome.result.requestId
  mismatched : ∀ bytes frame, Returned outcome.calls bytes → (decode bytes).frame = some frame →
    frame.requestId ≠ outcome.result.requestId → outcome.result.error = .correlationMismatch

theorem Run.correlated {plan : Plan} {attempt : Nat} {client final : Client} {state last : σ}
    {calls : List Call} {result : OperationResult}
    (run : Run transport plan attempt client state calls result final last) (op : ClientOp) :
    Correlated { op := op, result := result, calls := calls } := by
  have sameId := run.requestId
  rcases run.verdict with ⟨-, -, -, none⟩ | ⟨reply, attempts, ok, -, verdict, only⟩
  · constructor
    · rintro bytes ⟨request, deadline, member⟩
      exact absurd rfl (none _ _ _ member)
    · rintro bytes frame ⟨request, deadline, member⟩
      exact absurd rfl (none _ _ _ member)
  · constructor
    · rintro bytes ⟨request, deadline, member⟩ accepted
      obtain rfl := only _ _ _ member rfl
      cases verdict with
      | remote decoded same => exact ⟨_, decoded, same⟩
      | accepted decoded same => exact ⟨_, decoded, same⟩
      | _ => rcases accepted with impossible | impossible <;> cases impossible
    · rintro bytes frame ⟨request, deadline, member⟩ decoded other
      obtain rfl := only _ _ _ member rfl
      exact verdict.of_other_id decoded (by rwa [← sameId])

theorem perform_correlated (transport : ITransport σ) (client : Client) (state : σ)
    (op : ClientOp) :
    Correlated { op := op, result := (client.perform transport state op).1,
                 calls := client.calls transport state op } := by
  obtain ⟨-, none, performed⟩ | ⟨-, result, final, last, run, performed⟩ :=
    perform_run transport client state op
  · rw [none]
    constructor
    · rintro bytes ⟨request, deadline, member⟩
      cases member
    · rintro bytes frame ⟨request, deadline, member⟩
      cases member
  · rw [performed]
    exact run.correlated op

/-- Stale replies are never attributed to another operation. In every session of a client the
identifiers are nonzero, and different for two operations less than `2 ^ 32 - 1` apart. A reply
that gives one of them success or a remote error gives the other a correlation mismatch. -/
theorem stale_replies_rejected (transport : ITransport σ) (options : ClientOptions) (state : σ)
    (ops : List ClientOp) :
    let outcomes := session transport (Client.new options) state ops
    (∀ outcome ∈ outcomes, outcome.result.requestId ≠ 0#32) ∧
    (∀ (i j : Nat) (one other : Outcome), outcomes[i]? = some one → outcomes[j]? = some other →
      i ≠ j → i < j + 0xFFFFFFFF → j < i + 0xFFFFFFFF →
      one.result.requestId ≠ other.result.requestId ∧
      ∀ bytes, Returned one.calls bytes →
        one.result.error = .none ∨ one.result.error = .remoteError →
        Returned other.calls bytes → other.result.error = .correlationMismatch) := by
  intro outcomes
  have nonzero : (Client.new options).nextRequestId ≠ 0#32 := (Client.new options).requestId_ne_zero
  have correlated : ∀ outcome ∈ outcomes, Correlated outcome :=
    session_forall transport (fun _ => True) (fun _ _ _ _ => trivial)
      (fun client state op _ => perform_correlated transport client state op) trivial state ops
  constructor
  · intro outcome member
    obtain ⟨position, found⟩ := List.getElem?_of_mem member
    rw [session_requestId transport found]
    exact (iterate_followingId_toNat nonzero position).1
  · intro i j one other foundOne foundOther different near near'
    have distinct : one.result.requestId ≠ other.result.requestId := by
      rw [session_requestId transport foundOne, session_requestId transport foundOther]
      exact iterate_followingId_ne nonzero different near near'
    refine ⟨distinct, ?_⟩
    intro bytes returned accepted replayed
    obtain ⟨frame, decoded, same⟩ :=
      (correlated one (List.mem_of_getElem? foundOne)).attributed bytes returned accepted
    refine (correlated other (List.mem_of_getElem? foundOther)).mismatched bytes frame replayed
      decoded ?_
    rw [same]
    exact distinct

end Client

end Imlp
