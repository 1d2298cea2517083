import Rendezvous.Proofs.Signaling.Arrival
import Rendezvous.Proofs.WebSocket.Script

/-!
# What a call sends

A step of a call that has a room to relay in does one deed (`sends_of_step`). The deed sends
its peer the envelope at the head of the outlook, if one stands there, and concerns nobody's
connection but its own. So a client that has subscribed and says nothing stays so, whatever its
call does (`Subscribed.steps`).
-/

namespace Rendezvous.WebSocket

open Signaling (Call Serving)

/-- A call that is about to join as a role of a room, relays there, or reads no longer. -/
structure Tracks (s : Serving) (code : String) (role : Role) : Prop where
  started : s.started = true
  phase : (s.call.phase = .awaiting ∧ ∃ text rest, s.waiting = .text text :: rest ∧
      Subscription.ofText text = .ok ⟨code, role⟩) ∨ s.call.HasJoined code role

section
variable {s s' : Serving} {r r' : Relay} {code : String} {role : Role}

/-- A call that waits for its first message has it. -/
theorem Tracks.first (h : Tracks s code role) (awaiting : s.call.phase = .awaiting) :
    s.waiting ≠ [] := by
  rcases h.phase with ⟨-, text, rest, waiting, -⟩ | relaying | stopped
  · rw [waiting]
    exact List.cons_ne_nil _ _
  · rw [awaiting] at relaying
    cases relaying
  · rw [Call.isReading, awaiting] at stopped
    cases stopped

/-- More that waits does not change what a call is. -/
theorem Tracks.grows (h : Tracks s code role) (grown : Grown s s') : Tracks s' code role := by
  refine ⟨grown.started.trans h.started, ?_⟩
  rw [grown.call]
  rcases h.phase with ⟨awaiting, text, rest, waiting, asks⟩ | joined
  · obtain ⟨more, behind⟩ := grown.more
    exact Or.inl ⟨awaiting, text, rest ++ more, by rw [behind, waiting]; rfl, asks⟩
  · exact Or.inr joined

/-- A step of a call does one deed, by which it sends `own` to its peer, if anything; that is
taken off its outlook. -/
structure Sends (s s' : Serving) (r r' : Relay) (code : String) (role : Role)
    (own : Option Envelope) : Prop where
  deed : ∃ d, r'.Alike (r.perform d) ∧ d.sent? code role.peer = own ∧ d.reader? = none ∧
    ∀ id, id ≠ s.call.connection → ¬ d.Concerns id
  connection : s'.call.connection = s.call.connection
  tracks : Tracks s' code role
  ahead : outlook s = own.toList.map some ++ outlook s'

/-- No call takes frames off a channel. -/
theorem reader?_of_move {c c' : Call} {d : Deed} (move : c.Move r d c') : d.reader? = none := by
  cases move <;> rfl

/-- A call's move sends the message that is at the front of its outlook, if it sends one. -/
theorem sends_of_move {c' : Call} {d : Deed} (move : s.call.Move r d c')
    (alike : r'.Alike (r.perform d)) (call : s'.call = c') (tracks : Tracks s' code role)
    (ahead : outlook s = (d.sent? code role.peer).toList.map some ++ outlook s') :
    Sends s s' r r' code role (d.sent? code role.peer) where
  deed := ⟨d, alike, rfl, reader?_of_move move, fun _ => Signaling.World.apart_of_move move⟩
  connection := by rw [call, move.connection]
  tracks := tracks
  ahead := ahead

/-- A call that reads no longer sends nothing on its way out. -/
theorem sent?_finish {c c' : Call} {d : Deed} (move : c.Move r d c')
    (stopped : c.isReading = false) : d.sent? code role = none := by
  cases move with
  | joins | refused | hangsUp | relays | stops => cases stopped
  | leaves | closes | rests => rfl

/-- What a step that was taken has come to. -/
theorem Moves.taken {result : Call × Relay} {left : List (Option Envelope)}
    (moves : Moves s r result left) (stepped : s.step? r = some (s', r')) :
    s'.call = result.1 ∧ r' = result.2 ∧ s'.started = true ∧
      outlook s' = if result.1.isReading then left else [none] := by
  obtain ⟨t, stepped', call, started, -, left_⟩ := moves
  rw [stepped] at stepped'
  cases stepped'
  exact ⟨call, rfl, started, call ▸ left_⟩

/-- The subscription is read, and the call has joined. -/
theorem sends_of_first (started : s.started = true) (awaiting : s.call.phase = .awaiting)
    {text : String} {rest : List Signaling.Inbound} (waiting : s.waiting = .text text :: rest)
    (asks : Subscription.ofText text = .ok ⟨code, role⟩) (live : r.isLive code = true)
    (stepped : s.step? r = some (s', r')) : Sends s s' r r' code role none := by
  obtain ⟨id, isCall⟩ : ∃ id, s.call = .start id := ⟨s.call.connection, by
    rw [Call.start, ← awaiting]⟩
  obtain ⟨call, same, started', left⟩ := (moves_first started awaiting waiting).taken stepped
  have read : s.call.read r (some (.text text)) = (⟨id, .relaying code role⟩,
      (r.perform (.within code (.attach role id))).record (·.opened role)) := by
    rw [isCall]
    show (Call.start id).readFirst r (some (.text text)) = _
    rw [Call.readFirst, asks]
    show (Call.start id).subscribe r _ = _
    rw [Call.subscribe, Relay.join_eq, live]
    rfl
  rw [read] at call same left
  have move : s.call.Move r (.within code (.attach role id)) ⟨id, .relaying code role⟩ := by
    rw [isCall]
    exact .joins live
  exact sends_of_move move ⟨_, same⟩ call ⟨started', Or.inr (Or.inl (by rw [call]))⟩ left.symm

/-- A call that relays sends what stands at the head of its outlook, or stops there. -/
theorem sends_of_relaying (started : s.started = true)
    (relaying : s.call.phase = .relaying code role) (live : r.isLive code = true)
    (stepped : s.step? r = some (s', r')) : ∃ own, Sends s s' r r' code role own := by
  obtain ⟨room, found⟩ := Option.isSome_iff_exists.mp live
  cases next_of_relaying started r relaying with
  | waits nothing still =>
    rw [stepped] at still
    cases still
  | @relays e left next moves =>
    obtain ⟨call, same, started', left_⟩ := moves.taken stepped
    rw [Call.forward_of_live found] at call same left_
    have move : s.call.Move r (.within code (.relay role.peer e)) s.call := by
      obtain ⟨id, phase⟩ : ∃ id, s.call = ⟨id, .relaying code role⟩ :=
        ⟨s.call.connection, by rw [← relaying]⟩
      rw [phase]
      exact .relays e
    have sent : (Deed.within code (.relay role.peer e)).sent? code role.peer = some e :=
      if_pos ⟨rfl, rfl⟩
    refine ⟨_, sends_of_move move ?_ call ⟨started', Or.inr (Or.inl (by rw [call, relaying]))⟩ ?_⟩
    · rw [same, Relay.send_eq]
      exact .refl _
    · rw [sent, next, left_, Call.isReading, relaying]
      rfl
  | stops next moves =>
    obtain ⟨call, same, started', left_⟩ := moves.taken stepped
    -- It stops without a word, and the relay stays as it is.
    have move : s.call.Move r .nothing ⟨s.call.connection, .leaving code role⟩ := by
      obtain ⟨id, phase⟩ : ∃ id, s.call = ⟨id, .relaying code role⟩ :=
        ⟨s.call.connection, by rw [← relaying]⟩
      rw [phase]
      exact .stops
    have stopped : s'.call.isReading = false := by
      rw [call]
      rfl
    refine ⟨_, sends_of_move move ⟨_, same⟩ call ⟨started', Or.inr (Or.inr stopped)⟩ ?_⟩
    rw [next, left_]
    rfl

/-- A call that reads no longer sends nothing. -/
theorem sends_of_stopped (started : s.started = true) (stopped : s.call.isReading = false)
    (stepped : s.step? r = some (s', r')) : Sends s s' r r' code role none := by
  cases finished : s.call.isDone with
  | true =>
    rw [step?_of_isDone finished] at stepped
    cases stepped
  | false =>
    obtain ⟨call, same, started', left⟩ := (moves_finish started r stopped finished).taken stepped
    obtain ⟨d, move, alike⟩ := s.call.move_finish r
    have still := Call.isReading_finish stopped r
    have silent : d.sent? code role.peer = none := sent?_finish move stopped
    rw [← silent]
    refine sends_of_move move (same ▸ alike) call
      ⟨started', Or.inr (Or.inr (by rw [call, still]))⟩ ?_
    rw [silent, outlook_of_stopped stopped, left, still]
    rfl

/-- **A step of the sender's call**, as long as the room is live. -/
theorem sends_of_step (h : Tracks s code role) (live : r.isLive code = true)
    (stepped : s.step? r = some (s', r')) : ∃ own, Sends s s' r r' code role own := by
  rcases h.phase with ⟨awaiting, text, rest, waiting, asks⟩ | relaying | stopped
  · exact ⟨_, sends_of_first h.started awaiting waiting asks live stepped⟩
  · exact sends_of_relaying h.started relaying live stepped
  · exact ⟨_, sends_of_stopped h.started stopped stepped⟩

end

namespace Socket

/-- The client has subscribed as a role of a room, and nothing that it said since waits: its
subscription is about to be read, or the call relays already. -/
structure Subscribed (s : Socket) (code : String) (role : Role) : Prop where
  present : s.isOver = false
  up : s.link = .up
  tracks : Tracks s.serving code role
  silent : outlook s.serving = []

/-- A client subscribes with the first thing it says, pings and pongs apart. -/
theorem subscribed_first (id : ConnId) (reading : Bool) {controls : List Message}
    (silent : ∀ m ∈ controls, m.isControl = true) {m : Message} {text : String}
    (isText : m.text? = some text) {code : String} {role : Role}
    (asks : Subscription.ofText text = .ok ⟨code, role⟩) :
    (((Socket.fresh id reading).receiveAll controls).receive m).Subscribed code role := by
  have isData : m.isData = true := by
    cases m with
    | text | binary => rfl
    | ping | pong | close => cases isText
  have unheard := unheard_receiveAll (unheard_fresh id reading) silent
  have received := ((Socket.fresh id reading).receiveAll controls).received_receive m
  have serving := serving_receive_first unheard isData
  rw [isText] at serving
  refine ⟨received.isOver.trans unheard.isOver, received.link.trans unheard.link, ?_, ?_⟩
  · rw [serving]
    exact ⟨rfl, Or.inl ⟨rfl, text, [], rfl, asks⟩⟩
  · rw [serving]
    rfl

/-- As long as its room is live, the client stays subscribed while its call gets on. -/
theorem Subscribed.steps {s : Socket} {code : String} {role : Role} (h : s.Subscribed code role)
    {r r' : Relay} {serving : Serving} (live : r.isLive code = true)
    (stepped : s.serving.step? r = some (serving, r')) :
    Subscribed { s with serving } code role := by
  obtain ⟨own, sends⟩ := sends_of_step h.tracks live stepped
  have ahead := sends.ahead
  rw [h.silent] at ahead
  exact ⟨h.present, h.up, sends.tracks, (List.append_eq_nil_iff.mp ahead.symm).2⟩

end Socket

end Rendezvous.WebSocket
