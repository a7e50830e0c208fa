import Imlp.Client.Calls

/-!
# A client cannot look behind its transport

A client knows its transport only through the four methods of `ITransport`. If two transports
answer every call alike as long as their states are related, and keep them related, then every
operation of a client ends with the same result and the same client over both.
-/

namespace Imlp

/-- The two transports answer alike in related states, and keep the states related. -/
structure ITransport.Simulates {σ τ : Type} (related : σ → τ → Prop) (left : ITransport σ)
    (right : ITransport τ) : Prop where
  connect : ∀ {state state'}, related state state' →
    (left.connect state).1 = (right.connect state').1 ∧
      related (left.connect state).2 (right.connect state').2
  close : ∀ {state state'}, related state state' →
    related (left.close state) (right.close state')
  connected : ∀ {state state'}, related state state' →
    (left.connected state).1 = (right.connected state').1 ∧
      related (left.connected state).2 (right.connected state').2
  exchange : ∀ {state state'}, related state state' → ∀ request deadline,
    (left.exchange request deadline state).1 = (right.exchange request deadline state').1 ∧
      related (left.exchange request deadline state).2 (right.exchange request deadline state').2

namespace Client

section Simulation

variable {σ τ : Type} {related : σ → τ → Prop} {left : ITransport σ} {right : ITransport τ}

/-- The same value and the same client, and related transport states. -/
def SameEnd {α : Type} (related : σ → τ → Prop) (first : α × Client × σ)
    (second : α × Client × τ) : Prop :=
  first.1 = second.1 ∧ first.2.1 = second.2.1 ∧ related first.2.2 second.2.2

theorem ensureConnected_simulated (simulates : left.Simulates related right) (client : Client)
    {state : σ} {state' : τ} (same : related state state') :
    SameEnd related (client.ensureConnected left state) (client.ensureConnected right state') := by
  obtain ⟨flag, kept⟩ := simulates.connected same
  unfold ensureConnected
  dsimp only
  rw [flag]
  split
  · exact ⟨rfl, rfl, kept⟩
  · obtain ⟨opened, next⟩ := simulates.connect kept
    exact ⟨opened, rfl, next⟩

theorem readAttempts_simulated (simulates : left.Simulates related right) (request : Frame)
    (encoded : List Byte) (expectedLength : Nat) (deadline : Int) (remaining attempt : Nat)
    (client : Client) {state : σ} {state' : τ} (same : related state state') :
    SameEnd related
      (readAttempts left request encoded expectedLength deadline remaining attempt client state)
      (readAttempts right request encoded expectedLength deadline remaining attempt client
        state') := by
  induction remaining generalizing attempt client state state' with
  | zero => exact ⟨rfl, rfl, same⟩
  | succ remaining ih =>
    obtain ⟨connected, clients, opened⟩ := ensureConnected_simulated simulates client same
    obtain ⟨replied, kept⟩ := simulates.exchange opened encoded deadline
    rw [readAttempts, readAttempts]
    dsimp only
    rw [connected, clients, replied]
    split
    · exact ⟨rfl, rfl, opened⟩
    split
    · exact ⟨rfl, rfl, kept⟩
    split
    · exact ih _ _ (simulates.close kept)
    · exact ⟨rfl, rfl, simulates.close kept⟩

theorem executeRead_simulated (simulates : left.Simulates related right) (request : Frame)
    (expectedLength : Nat) (deadline : Int) (client : Client) {state : σ} {state' : τ}
    (same : related state state') :
    SameEnd related (executeRead left request expectedLength deadline client state)
      (executeRead right request expectedLength deadline client state') := by
  unfold executeRead
  dsimp only
  split
  · exact ⟨rfl, rfl, same⟩
  · exact readAttempts_simulated simulates _ _ _ _ _ _ _ same

theorem executeWrite_simulated (simulates : left.Simulates related right) (request : Frame)
    (deadline : Int) (client : Client) {state : σ} {state' : τ} (same : related state state') :
    SameEnd related (executeWrite left request deadline client state)
      (executeWrite right request deadline client state') := by
  obtain ⟨connected, clients, opened⟩ := ensureConnected_simulated simulates client same
  obtain ⟨replied, kept⟩ := simulates.exchange opened (encode request).bytes deadline
  unfold executeWrite
  dsimp only
  rw [connected, clients, replied]
  split
  · exact ⟨rfl, rfl, same⟩
  split
  · exact ⟨rfl, rfl, opened⟩
  split
  · exact ⟨rfl, rfl, simulates.close kept⟩
  · exact ⟨rfl, rfl, kept⟩

/-- Over transports that simulate each other, every operation ends alike. -/
theorem perform_simulated (simulates : left.Simulates related right) (client : Client)
    {state : σ} {state' : τ} (same : related state state') (op : ClientOp) :
    SameEnd related (client.perform left state op) (client.perform right state' op) := by
  cases op with
  | read address length deadline =>
    unfold perform Client.read
    dsimp only
    split
    · exact ⟨rfl, rfl, same⟩
    · exact executeRead_simulated simulates _ _ _ _ same
  | write address data deadline =>
    unfold perform Client.write
    dsimp only
    split
    · exact ⟨rfl, rfl, same⟩
    · exact executeWrite_simulated simulates _ _ _ same

end Simulation

end Client

end Imlp
