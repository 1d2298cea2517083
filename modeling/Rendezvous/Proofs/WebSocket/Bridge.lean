import Rendezvous.Proofs.WebSocket.Passage
import Rendezvous.Proofs.WebSocket.Sending

/-!
# From one client to the other

Two clients of a room, each on a WebSocket. What one of them says is heard, read by its call,
relayed, accepted by the channel of the other, written, and seen. A `Bridge` holds all that is
on the way, and everything else that happens may come at any time between two steps.

`Carries` is the invariant. What the sender has said is what was relayed and what its call will
still make of what waits; what the receiver was given is what was relayed and what others have
sent it. So nothing is lost, nothing comes twice, and the order is kept (`carries_step`).
-/

namespace Rendezvous.WebSocket

open Signaling (Serving)

/-- Two lists woven into one: each is there in order, and nothing else is. -/
inductive Woven {α : Type} : List α → List α → List α → Prop
  | nil : Woven [] [] []
  | left {as bs all : List α} (a : α) (woven : Woven as bs all) : Woven (as ++ [a]) bs (all ++ [a])
  | right {as bs all : List α} (b : α) (woven : Woven as bs all) : Woven as (bs ++ [b]) (all ++ [b])

/-- A relay, and two sockets: what the client of one says is meant for the client of the
other. -/
structure Bridge where
  relay : Relay
  sender : Socket
  receiver : Socket

namespace Bridge

/-- What can happen. -/
inductive Event where
  /-- The sender's client sends a message. -/
  | speaks (m : Message)
  /-- The sender's call takes its next step, if it has one. -/
  | serves
  /-- Everything else about the sender's socket becomes as it is in another: its writer, what
  is in transit, what its client has read. -/
  | turns (s : Socket)
  /-- The receiver's writer gets a turn. -/
  | writes (fuel : Nat)
  /-- The receiver's client reads. -/
  | views
  /-- The receiver's client sends a message itself. -/
  | answers (m : Message)
  /-- The receiver's call moves on. What it does to the relay with that is a deed. -/
  | moves (serving : Serving)
  /-- Something else is done to the relay. -/
  | elsewhere (d : Deed)

/-- What the sender's client says with an event. -/
def Event.said? : Event → Option Message
  | .speaks m => some m
  | _ => none

/-- What somebody else sends to a role of a room with an event. -/
def Event.other? (code : String) (destination : Role) : Event → Option Envelope
  | .elsewhere d => d.sent? code destination
  | _ => none

/-- What an event makes of a bridge. -/
def step (b : Bridge) : Event → Bridge
  | .speaks m => { b with sender := b.sender.receive m }
  | .serves =>
    match b.sender.serving.step? b.relay with
    | some (serving, relay) => { b with relay, sender := { b.sender with serving } }
    | none => b
  | .turns s =>
    let sender := { s with
      serving := b.sender.serving, isOver := b.sender.isOver, link := b.sender.link }
    { b with sender }
  | .writes fuel =>
    let (receiver, relay) := b.receiver.write fuel b.relay
    { b with relay, receiver }
  | .views => { b with receiver := b.receiver.view }
  | .answers m => { b with receiver := b.receiver.receive m }
  | .moves serving =>
    if serving.call.connection = b.receiver.connection then
      { b with receiver := { b.receiver with serving } }
    else b
  | .elsewhere d => { b with relay := b.relay.perform d }

/-- What a list of events makes of a bridge. -/
def run (b : Bridge) (events : List Event) : Bridge := events.foldl step b

theorem run_append (b : Bridge) (before after : List Event) :
    b.run (before ++ after) = (b.run before).run after := List.foldl_append ..

theorem run_snoc (b : Bridge) (events : List Event) (ev : Event) :
    b.run (events ++ [ev]) = (b.run events).step ev := run_append ..

/-- The frames that wait for the receiver. -/
def channel (b : Bridge) : Channel := b.relay.channel b.receiver.connection

/-- The receiver keeps its slot, opposite the sender's, and its client keeps reading: there is
always room for one more frame. -/
structure Kept (b : Bridge) (code : String) (role : Role) : Prop where
  seated : b.relay.Seated b.receiver.connection code role.peer
  free : 0 < b.channel.free
  reading : b.receiver.reading = true
  present : b.receiver.isOver = false
  up : b.receiver.link = .up
  attending : b.receiver.clientClosed = false
  going : b.receiver.serving.isDone = false

instance (b : Bridge) (code : String) (role : Role) : Decidable (b.Kept code role) :=
  decidable_of_iff
    (b.relay.Seated b.receiver.connection code role.peer ∧ 0 < b.channel.free ∧
      b.receiver.reading = true ∧ b.receiver.isOver = false ∧ b.receiver.link = .up ∧
      b.receiver.clientClosed = false ∧ b.receiver.serving.isDone = false)
    ⟨fun ⟨seated, free, reading, present, up, attending, going⟩ =>
      ⟨seated, free, reading, present, up, attending, going⟩,
    fun h => ⟨h.seated, h.free, h.reading, h.present, h.up, h.attending, h.going⟩⟩

/-- The event leaves the receiver's connection to itself: it does not put it into a slot or
tell it something that its call would, and it does not read its channel. -/
def Event.Spares (id : ConnId) : Event → Prop
  | .elsewhere d => ¬ d.Concerns id ∧ d.reader? ≠ some id
  | _ => True

/-! ## What is on the way -/

/-- What was relayed so far, `own`, and what the call will make of what waits, is what was
said. What the receiver was given since the beginning is `own`, woven with what others have
sent. -/
structure Carries (before : List String) (code : String) (role : Role) (said : List Message)
    (others : List Envelope) (b : Bridge) : Prop where
  apart : b.sender.connection ≠ b.receiver.connection
  present : b.sender.isOver = false
  up : b.sender.link = .up
  tracks : Tracks b.sender.serving code role
  keeps : b.relay.Keeps b.receiver.connection code role.peer
  active : b.receiver.writer = .active
  books : ∃ own all, own.map some ++ outlook b.sender.serving = script said ∧
    Woven own others all ∧
    b.receiver.given b.relay = before ++ all.map Envelope.wireText

section
variable {b : Bridge} {before : List String} {code : String} {role : Role} {said : List Message}
  {others : List Envelope}

theorem Kept.live (kept : b.Kept code role) : b.relay.isLive code = true := by
  obtain ⟨s, found, -⟩ := kept.seated
  rw [Relay.isLive, found]
  rfl

/-- A receiver whose slot is kept and whose writer is at work lets everything pass. -/
theorem Kept.passing (kept : b.Kept code role) (active : b.receiver.writer = .active) :
    b.receiver.Passing :=
  ⟨⟨active, kept.reading, kept.up, kept.attending⟩, kept.going⟩

/-- The sender's client says something more. -/
theorem carries_speaks (h : b.Carries before code role said others) (m : Message) :
    (b.step (.speaks m)).Carries before code role (said ++ [m]) others := by
  have received := b.sender.received_receive m
  obtain ⟨own, all, told, woven, given⟩ := h.books
  have ahead := outlook_receive h.present h.up h.tracks.first m
  refine ⟨?_, received.isOver.trans h.present, received.link.trans h.up,
    h.tracks.grows (b.sender.grown_receive m), h.keeps, h.active, own, all, ?_, woven, given⟩
  · show (b.sender.receive m).connection ≠ _
    rw [Socket.connection_receive]
    exact h.apart
  · show own.map some ++ outlook (b.sender.receive m).serving = _
    rw [ahead, script_snoc, ← told, List.append_assoc, untilEnd_map_append]

/-- A deed that spares the receiver, and the envelope that comes to it from there. -/
theorem arrives_of_deed (h : b.relay.Keeps b.receiver.connection code role.peer)
    (free : 0 < b.channel.free) {d : Deed} {r' : Relay} (alike : r'.Alike (b.relay.perform d))
    (apart : ¬ d.Concerns b.receiver.connection) (unread : d.reader? ≠ some b.receiver.connection)
    (seated : r'.Seated b.receiver.connection code role.peer) :
    r'.Keeps b.receiver.connection code role.peer ∧
    b.receiver.given r' = b.receiver.given b.relay
      ++ (d.sent? code role.peer).toList.map Envelope.wireText := by
  obtain ⟨keeps, taken, accepted⟩ := h.arrives free apart unread (alike.seated.mp seated)
  rw [← alike.channel] at taken accepted
  exact ⟨keeps.of_alike alike, Socket.given_arrives h.sound taken accepted⟩

/-- The sender's call takes a step. -/
theorem carries_serves (h : b.Carries before code role said others) (kept : b.Kept code role)
    (still : (b.step .serves).Kept code role) :
    (b.step .serves).Carries before code role said others := by
  rw [step] at still ⊢
  cases stepped : b.sender.serving.step? b.relay with
  | none => exact h
  | some next =>
    obtain ⟨serving, relay⟩ := next
    rw [stepped] at still
    obtain ⟨own', sends⟩ := sends_of_step h.tracks kept.live stepped
    obtain ⟨d, alike, sent, unread, spared⟩ := sends.deed
    obtain ⟨own, all, told, woven, given⟩ := h.books
    obtain ⟨keeps, given'⟩ := arrives_of_deed h.keeps kept.free alike (spared _ h.apart.symm)
      (by rw [unread]; exact nofun) still.seated
    rw [sent] at given'
    refine ⟨?_, h.present, h.up, sends.tracks, keeps, h.active,
      own ++ own'.toList, all ++ own'.toList, ?_, ?_, ?_⟩
    · show serving.call.connection ≠ _
      rw [sends.connection]
      exact h.apart
    · rw [← told, sends.ahead, List.map_append, List.append_assoc]
    · cases own' with
      | none =>
        rw [Option.toList_none, List.append_nil, List.append_nil]
        exact woven
      | some e => exact .left e woven
    · show b.receiver.given relay = _
      rw [given', given, List.map_append, List.append_assoc]

/-- Something else happens to the relay. -/
theorem carries_elsewhere (h : b.Carries before code role said others) (kept : b.Kept code role)
    {d : Deed} (spares : (Event.elsewhere d).Spares b.receiver.connection)
    (still : (b.step (.elsewhere d)).Kept code role) :
    (b.step (.elsewhere d)).Carries before code role said
      (others ++ (d.sent? code role.peer).toList) := by
  obtain ⟨own, all, told, woven, given⟩ := h.books
  obtain ⟨keeps, given'⟩ := arrives_of_deed h.keeps kept.free (.refl _) spares.1 spares.2
    still.seated
  refine ⟨h.apart, h.present, h.up, h.tracks, keeps, h.active,
    own, all ++ (d.sent? code role.peer).toList, told, ?_, ?_⟩
  · cases d.sent? code role.peer with
    | none =>
      rw [Option.toList_none, List.append_nil, List.append_nil]
      exact woven
    | some e => exact .right e woven
  · show b.receiver.given (b.relay.perform d) = _
    rw [given', given, List.map_append, List.append_assoc]

/-- What the receiver's own socket does moves what was given, but does not change it. -/
theorem Carries.passes (h : b.Carries before code role said others) {receiver : Socket}
    {relay : Relay} (connection : receiver.connection = b.receiver.connection)
    (active : receiver.writer = .active)
    (keeps : relay.Keeps b.receiver.connection code role.peer)
    (given : receiver.given relay = b.receiver.given b.relay) :
    Carries before code role said others { b with relay, receiver } := by
  obtain ⟨own, all, told, woven, before_⟩ := h.books
  refine ⟨?_, h.present, h.up, h.tracks, ?_, active, own, all, told, woven, given.trans before_⟩
  · rw [connection]
    exact h.apart
  · show relay.Keeps receiver.connection _ _
    rw [connection]
    exact keeps

/-- What a turn of the receiver's writer comes to. -/
theorem Carries.turn (h : b.Carries before code role said others) (kept : b.Kept code role)
    (fuel : Nat) : ∃ count, Socket.Turn b.receiver b.relay count (b.receiver.write fuel b.relay) ∧
      count ≤ b.channel.queue.length ∧
      (b.channel.queue.length < fuel → count = b.channel.queue.length) := by
  have plain : ∀ f ∈ b.channel.queue, f.isClose = false := by
    obtain ⟨es, accepted⟩ := h.keeps.plain
    intro f mem
    have wasAccepted : f ∈ b.channel.accepted := List.mem_of_mem_drop mem
    rw [channel, accepted] at wasAccepted
    obtain ⟨e, -, rfl⟩ := List.mem_map.mp wasAccepted
    rfl
  exact Socket.turn_write (kept.passing h.active) h.keeps.sound plain fuel

/-- The receiver's writer gets a turn. -/
theorem carries_writes (h : b.Carries before code role said others) (kept : b.Kept code role)
    (fuel : Nat) : (b.step (.writes fuel)).Carries before code role said others := by
  obtain ⟨count, turn, few, -⟩ := h.turn kept fuel
  have socket := turn.socket
  refine h.passes ?_ ?_ (turn.keeps few h.keeps) (Socket.given_write turn)
  · rw [socket]
    rfl
  · rw [socket]
    exact h.active

/-- **One event**, and everything that was said is still on its way or has arrived. -/
theorem carries_step (h : b.Carries before code role said others) (kept : b.Kept code role)
    {ev : Event} (spares : ev.Spares b.receiver.connection) (still : (b.step ev).Kept code role) :
    (b.step ev).Carries before code role (said ++ ev.said?.toList)
      (others ++ (ev.other? code role.peer).toList) := by
  -- Most events say nothing, and the conclusion asks for it in this form.
  have same : Carries before code role (said ++ []) (others ++ []) b := by
    rw [List.append_nil, List.append_nil]
    exact h
  cases ev with
  | speaks m =>
    show Carries _ _ _ _ (others ++ []) _
    rw [List.append_nil]
    exact carries_speaks h m
  | serves =>
    show Carries _ _ _ (said ++ []) (others ++ []) _
    rw [List.append_nil, List.append_nil]
    exact carries_serves h kept still
  | elsewhere d =>
    show Carries _ _ _ (said ++ []) _ _
    rw [List.append_nil]
    exact carries_elsewhere h kept spares still
  | turns s =>
    exact ⟨same.apart, same.present, same.up, same.tracks, same.keeps, same.active, same.books⟩
  | writes fuel =>
    show Carries _ _ _ (said ++ []) (others ++ []) _
    rw [List.append_nil, List.append_nil]
    exact carries_writes h kept fuel
  | views =>
    obtain ⟨connection, writer, -⟩ := b.receiver.view_spec
    exact same.passes connection (writer.trans h.active) h.keeps (Socket.given_view ..)
  | answers m =>
    exact same.passes (Socket.connection_receive ..)
      ((Socket.received_receive ..).writer.trans h.active) h.keeps (Socket.given_receive ..)
  | moves serving =>
    rw [step]
    split
    next connection =>
      refine same.passes connection h.active h.keeps ?_
      show Socket.given { b.receiver with serving } b.relay = _
      rw [Socket.given, Socket.given]
      show texts (_ ++ _ ++ (b.relay.channel serving.call.connection).queue.map face) = _
      rw [connection]
    next => exact same

/-! ## Runs -/

/-- The receiver stays the same connection. -/
theorem receiver_step (b : Bridge) (ev : Event) :
    (b.step ev).receiver.connection = b.receiver.connection := by
  cases ev with
  | speaks m | turns s | elsewhere d => rfl
  | serves =>
    rw [step]
    split <;> rfl
  | writes fuel => exact Socket.connection_write ..
  | views => exact b.receiver.view_spec.1
  | answers m => exact Socket.connection_receive ..
  | moves serving =>
    rw [step]
    split
    next connection => exact connection
    next => rfl

theorem receiver_run (b : Bridge) (events : List Event) :
    (b.run events).receiver.connection = b.receiver.connection := by
  induction events using List.reverseRecOn with
  | nil => rfl
  | append_singleton events ev ih =>
    rw [run_snoc, receiver_step]
    exact ih

/-- What one event carries over, a run does: the messages of the sender in order, and those of
others between them. -/
theorem carries_run (h : b.Carries before code role said others) {events : List Event}
    (spares : ∀ ev ∈ events, ev.Spares b.receiver.connection)
    (kept : ∀ earlier, earlier <+: events → (b.run earlier).Kept code role) :
    (b.run events).Carries before code role (said ++ events.filterMap Event.said?)
      (others ++ events.filterMap (Event.other? code role.peer)) := by
  -- The hypotheses speak of beginnings of the run, so the induction takes events off its end.
  induction events using List.reverseRecOn with
  | nil =>
    rw [List.filterMap_nil, List.filterMap_nil, List.append_nil, List.append_nil]
    exact h
  | append_singleton events ev ih =>
    have earlier := ih (fun ev mem => spares ev (List.mem_append_left _ mem))
      fun earlier isPrefix => kept earlier (isPrefix.trans (List.prefix_append ..))
    have spared : ev.Spares (b.run events).receiver.connection := by
      rw [receiver_run]
      exact spares ev (by simp)
    have now := carries_step earlier (kept events (List.prefix_append ..)) spared
      (by rw [← run_snoc]; exact kept _ (List.prefix_refl _))
    have snoc : ∀ {α : Type} (f : Event → Option α),
        (events ++ [ev]).filterMap f = events.filterMap f ++ (f ev).toList := by
      intro α f
      rw [List.filterMap_append]
      cases at_ev : f ev with
      | none => rw [List.filterMap_cons_none at_ev]; rfl
      | some a => rw [List.filterMap_cons_some at_ev]; rfl
    rw [run_snoc, snoc, snoc, ← List.append_assoc, ← List.append_assoc]
    exact now

/-- What the sender has relayed is the first part of what was heard, and all of it once its
call has nothing left to read. -/
theorem Carries.relayed (h : b.Carries before code role said others) :
    ∃ own all, own <+: heard said ∧
      (b.sender.serving.step? b.relay = none → own = heard said) ∧ Woven own others all ∧
      b.receiver.given b.relay = before ++ all.map Envelope.wireText := by
  obtain ⟨own, all, told, woven, given⟩ := h.books
  have parts : heard said = own ++ (outlook b.sender.serving).reduceOption := by
    have whole : (own.map some).reduceOption = own := by
      rw [List.reduceOption, List.filterMap_map]
      exact List.filterMap_some
    rw [heard, ← told, List.reduceOption_append, whole]
  refine ⟨own, all, ⟨_, parts.symm⟩, fun still => ?_, woven, given⟩
  -- A call that cannot step has nothing more in view, whatever phase it rests in.
  have nothing : (outlook b.sender.serving).reduceOption = [] := by
    rcases h.tracks.phase with ⟨awaiting, text, rest, waiting, asks⟩ | relaying | stopped
    · obtain ⟨t, stepped, -⟩ := moves_first h.tracks.started awaiting waiting (r := b.relay)
      rw [stepped] at still
      cases still
    · cases next_of_relaying h.tracks.started b.relay relaying with
      | waits nothing _ => rw [nothing]; rfl
      | relays next moves =>
        obtain ⟨t, stepped, -⟩ := moves
        rw [stepped] at still
        cases still
      | stops next moves => rw [next]; rfl
    · rw [outlook_of_stopped stopped]
      rfl
  rw [parts, nothing, List.append_nil]

/-- The writer gets a turn, and the client reads: then it has seen all that it was given. -/
theorem Carries.seen (h : b.Carries before code role said others) (kept : b.Kept code role)
    {fuel : Nat} (inTime : b.channel.queue.length < fuel) :
    texts (b.run [.writes fuel, .views]).receiver.seen = b.receiver.given b.relay := by
  obtain ⟨count, turn, -, all⟩ := h.turn kept fuel
  have given := Socket.given_write turn
  have socket := turn.socket
  have queue := turn.queue
  rw [all inTime] at queue
  generalize written : b.receiver.write fuel b.relay = result at given socket queue
  have connection : result.1.connection = b.receiver.connection := by rw [socket]; rfl
  have nothing : (result.2.channel result.1.connection).queue = [] := by
    rw [connection, queue]
    exact List.drop_length
  show texts (b.step (.writes fuel)).receiver.view.seen = _
  rw [step, written]
  show texts result.1.view.seen = _
  rw [Socket.texts_view (by rw [socket]; exact kept.reading) (by rw [socket]; exact kept.present),
    ← given, Socket.given, nothing, List.map_nil, List.append_nil]

/-- A sender at rest is not moved by being served. -/
theorem run_of_rest (rests : b.sender.serving.step? b.relay = none) (n : Nat) :
    b.run (List.replicate n .serves) = b := by
  induction n with
  | zero => rfl
  | succ n ih =>
    have still : b.step .serves = b := by rw [step, rests]
    show (b.step .serves).run (List.replicate n .serves) = b
    rw [still]
    exact ih

/-- The sender's call comes to rest after so many steps. -/
theorem rests_of_serves {n : Nat} (enough : rank b.sender.serving ≤ n) :
    (b.run (List.replicate n .serves)).sender.serving.step?
      (b.run (List.replicate n .serves)).relay = none := by
  induction n generalizing b with
  | zero => exact step?_of_isDone (isDone_of_rank enough) _
  | succ n ih =>
    cases stepped : b.sender.serving.step? b.relay with
    | none =>
      rw [run_of_rest stepped]
      exact stepped
    | some next =>
      obtain ⟨serving, relay⟩ := next
      have closer := rank_step stepped
      have moved : b.step .serves = { b with relay, sender := { b.sender with serving } } := by
        rw [step, stepped]
      show ((b.step .serves).run _).sender.serving.step? ((b.step .serves).run _).relay = none
      rw [moved]
      refine ih ?_
      show rank serving ≤ n
      omega

end

end Bridge

end Rendezvous.WebSocket
