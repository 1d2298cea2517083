import Rendezvous.Proofs.Relay
import Rendezvous.Proofs.Signaling.World

/-!
# What a read comes to

A call that relays has read an envelope or nothing it can use. An envelope is sent by the
code and the role alone, whichever connection it came from (`read_of_envelope`); anything
else, and a room that is gone, ends the reading (`read_of_none`).
-/

namespace Rendezvous.Signaling

/-- The envelope that a call which relays has read. -/
def envelope? : Option Inbound → Option Envelope
  | some (.text s) => (Envelope.ofText s).toOption
  | some (.failure _) | none => none

/-- Only text can carry an envelope. -/
theorem envelope?_eq_some {next : Option Inbound} {e : Envelope} (h : envelope? next = some e) :
    ∃ s, next = some (.text s) ∧ Envelope.ofText s = .ok e := by
  rcases next with _ | ⟨text | fault⟩
  · cases h
  · refine ⟨text, rfl, ?_⟩
    cases decoded : Envelope.ofText text with
    | ok x =>
      rw [envelope?, decoded] at h
      rw [Option.some.inj h]
    | error fault =>
      rw [envelope?, decoded] at h
      cases h
  · cases h

namespace Call

variable {c : Call} {r : Relay} {code : String} {role : Role}

/-- To a live room a message is sent, whatever comes of it. -/
theorem forward_of_live {s : Session} (live : r.find? code = some s) (e : Envelope) :
    c.forward r code role e = (c, (r.send code role.peer e).2) := by
  rw [forward, Relay.send_of_live live]
  cases (s.send r.outlet role.peer e r.now).1 with
  | ok delivery => rfl
  | error refusal => rfl

/-- A message that was read is relayed by the code of the room and the role, whichever
connection it was read from. -/
theorem read_of_envelope (relaying : c.phase = .relaying code role) {s : Session}
    (live : r.find? code = some s) {next : Option Inbound} {e : Envelope}
    (isMessage : envelope? next = some e) :
    c.read r next = (c, (r.send code role.peer e).2) := by
  obtain ⟨text, rfl, decoded⟩ := envelope?_eq_some isMessage
  rw [read, relaying]
  dsimp only
  rw [readNext, decoded]
  exact forward_of_live live e

/-- Without a message, or without a room, the call stops reading. -/
theorem read_of_none (relaying : c.phase = .relaying code role) {next : Option Inbound}
    (h : envelope? next = none ∨ r.find? code = none) : c.read r next = c.stop r code role := by
  rw [read, relaying]
  dsimp only
  rcases next with _ | ⟨text | fault⟩
  · rfl
  · rw [readNext]
    cases decoded : Envelope.ofText text with
    | error fault => rfl
    | ok e =>
      rcases h with noMessage | gone
      · rw [envelope?, decoded] at noMessage
        cases noMessage
      · dsimp only
        rw [forward, Relay.send_of_gone gone]
  · rfl

/-- A call that reads no longer is left as it is by whatever its stream brings. -/
theorem read_of_stopped (stopped : c.isReading = false) (r : Relay) (next : Option Inbound) :
    c.read r next = (c, r) := by
  unfold isReading at stopped
  unfold read
  cases phase : c.phase with
  | awaiting | relaying code role =>
    rw [phase] at stopped
    cases stopped
  | leaving code role | closing | done => rfl

/-- A call that has stopped reading does not begin again. -/
theorem isReading_finish (stopped : c.isReading = false) (r : Relay) :
    (c.finish r).1.isReading = false := by
  unfold finish
  cases phase : c.phase with
  | leaving code role | closing => rfl
  | awaiting | relaying code role | done => exact stopped

/-- The call relays for a role of a room, or reads no longer. -/
def HasJoined (code : String) (role : Role) (c : Call) : Prop :=
  c.phase = .relaying code role ∨ c.isReading = false

/-- A call that has joined a room has joined it for good, whatever it reads. -/
theorem hasJoined_read (h : c.HasJoined code role) (r : Relay) (next : Option Inbound) :
    (c.read r next).1.HasJoined code role := by
  rcases h with relaying | stopped
  · cases isMessage : envelope? next with
    | none =>
      rw [read_of_none relaying (Or.inl isMessage)]
      exact Or.inr rfl
    | some e =>
      cases live : r.find? code with
      | none =>
        rw [read_of_none relaying (Or.inr live)]
        exact Or.inr rfl
      | some s =>
        rw [read_of_envelope relaying live isMessage]
        exact Or.inl relaying
  · rw [read_of_stopped stopped]
    exact Or.inr stopped

theorem hasJoined_finish (h : c.HasJoined code role) (r : Relay) :
    (c.finish r).1.HasJoined code role := by
  rcases h with relaying | stopped
  · rw [finish, relaying]
    exact Or.inl relaying
  · exact Or.inr (isReading_finish stopped r)

end Call

namespace World

/-- A call that has joined goes on to relay for its role until it reads no longer. -/
theorem hasJoined_run {w : World} {i : Nat} {c : Call} {code : String} {role : Role}
    (called : w.calls[i]? = some c) (joined : c.HasJoined code role) (events : List Event) :
    ∃ c', (w.run events).calls[i]? = some c' ∧ c'.HasJoined code role := by
  induction events using List.reverseRecOn with
  | nil => exact ⟨c, called, joined⟩
  | append_singleton events ev ih =>
    obtain ⟨d, stillCalled, stillJoined⟩ := ih
    obtain ⟨d', nextCalled, stepped⟩ := call_of_step stillCalled ev
    rw [run_snoc]
    refine ⟨d', nextCalled, ?_⟩
    rcases stepped with rfl | ⟨next, rfl⟩ | rfl
    · exact stillJoined
    · exact Call.hasJoined_read stillJoined _ next
    · exact Call.hasJoined_finish stillJoined _

end World

end Rendezvous.Signaling
