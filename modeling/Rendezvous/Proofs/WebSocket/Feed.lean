import Rendezvous.Proofs.WebSocket.Writer

/-!
# A socket in the world

The writer of a socket gets a turn now and then while the world moves on. A `Feed` is a
world with one socket in it. Whatever the order in which all this happens, what the writer
has begun fits what its channel has accepted (`faithful_run`); and the world goes through
a run like any other, since to it the socket is somebody who takes frames (`world_run`).
-/

namespace Rendezvous.WebSocket

open Signaling (World)

/-- A world with one socket in it, and all that the writer of the socket has begun. -/
structure Feed where
  world : World
  socket : Socket
  begun : List Shown

namespace Feed

/-- What can happen to a feed. Something happens in the world; the writer gets a turn, or is
cut off when its time is over; or the rest of the socket changes in any way, as its client
reads, writes, closes or goes, and its own call moves on. -/
inductive Event where
  | world (ev : World.Event)
  | write (fuel : Nat)
  | expire
  | becomes (s : Socket)

/-- What happens in the world, if it does. -/
def Event.world? : Event → Option World.Event
  | .world ev => some ev
  | .write _ | .expire | .becomes _ => none

/-- A world in which nothing has happened, with a socket for the connection of a name. -/
def start (limits : Limits) (candidates : Nat → String) (id : ConnId) (reading : Bool) : Feed :=
  ⟨.start limits candidates, .fresh id reading, []⟩

/-- What an event makes of a feed. Nobody but the writer takes frames off its channel, and
nothing but its own turns moves it. -/
def step (feed : Feed) : Event → Feed
  | .world ev =>
    if ev.reader? = some feed.socket.connection then feed
    else { feed with world := feed.world.step ev }
  | .write fuel =>
    let (socket, relay) := feed.socket.write fuel feed.world.relay
    { world := { feed.world with relay }, socket
      begun := feed.begun ++ socket.transit.drop feed.socket.transit.length }
  | .expire =>
    let (socket, relay) := feed.socket.expire feed.world.relay
    { feed with world := { feed.world with relay }, socket }
  | .becomes s =>
    if s.connection = feed.socket.connection ∧ s.writer = feed.socket.writer then
      { feed with socket := s }
    else feed

/-- What a list of events makes of a feed. -/
def run (feed : Feed) (events : List Event) : Feed := events.foldl step feed

theorem run_snoc (feed : Feed) (events : List Event) (ev : Event) :
    feed.run (events ++ [ev]) = (feed.run events).step ev := List.foldl_append ..

/-- The connection of the socket. -/
def connection (feed : Feed) : ConnId := feed.socket.connection

/-- The channel of the socket. -/
def channel (feed : Feed) : Channel := feed.world.relay.channel feed.connection

/-- What was begun fits what was accepted. -/
def Faithful (feed : Feed) : Prop := Socket.Faithful feed.socket.writer feed.channel feed.begun

theorem connection_expire (s : Socket) (r : Relay) : (s.expire r).1.connection = s.connection := by
  unfold Socket.expire
  split
  · split <;> rfl
  · rfl

/-- A socket that expires has shown what it has shown. -/
theorem faithful_expire {s : Socket} {r : Relay} {begun : List Shown}
    (h : Socket.Faithful s.writer (r.channel s.connection) begun) :
    Socket.Faithful (s.expire r).1.writer ((s.expire r).2.channel s.connection) begun := by
  unfold Socket.expire
  split
  · split
    · rw [Socket.channel_drop]
      exact h.leaves Writer.noConfusion rfl h.sound (Channel.sound_drop _)
    · exact h
  · exact h

/-- What a turn of the writer begins comes behind what was begun before. -/
theorem begun_write {feed : Feed} {fuel : Nat} {more : List Shown}
    (progress : Socket.Progress feed.socket feed.world.relay feed.begun more
      (feed.socket.write fuel feed.world.relay)) :
    (feed.step (.write fuel)).begun = feed.begun ++ more := by
  show feed.begun ++ (feed.socket.write fuel feed.world.relay).1.transit.drop _ = _
  rw [progress.transit, List.drop_left]

/-- What was begun is the first part of what there is to show. -/
theorem Faithful.begun_prefix {feed : Feed} (h : feed.Faithful) :
    feed.begun <+: shown feed.channel.accepted := by
  obtain ⟨n, -, begun⟩ := h.earlier
  have parts := shown_prefix (feed.channel.accepted.take n) (feed.channel.accepted.drop n)
  rw [List.take_append_drop] at parts
  rw [begun]
  exact parts

/-- A writer whose client takes everything leaves nothing out. -/
theorem Faithful.begun_all {feed : Feed} (h : feed.Faithful) (flowing : feed.socket.Flowing)
    {fuel : Nat} (inTime : feed.channel.queue.length < fuel) :
    (feed.step (.write fuel)).begun = shown feed.channel.accepted := by
  obtain ⟨more, progress, all⟩ := Socket.faithful_write fuel h
  rw [begun_write progress]
  exact all flowing inTime

/-- No event makes a client see anything but what its channel has accepted. -/
theorem step_faithful {feed : Feed} (h : feed.Faithful) (ev : Event) :
    (feed.step ev).connection = feed.connection ∧ (feed.step ev).Faithful := by
  cases ev with
  | world ev =>
    rw [step]
    split
    next => exact ⟨rfl, h⟩
    next others =>
      obtain ⟨d, turn, alike⟩ := feed.world.turn_step ev
      exact ⟨rfl, h.grows (World.grows_turn turn alike feed.connection) others⟩
  | write fuel =>
    obtain ⟨more, progress, -⟩ := Socket.faithful_write fuel h
    have connection : (feed.step (.write fuel)).connection = feed.connection := progress.connection
    refine ⟨connection, ?_⟩
    rw [Faithful, channel, connection, begun_write progress]
    exact progress.faithful
  | expire =>
    have connection : (feed.step .expire).connection = feed.connection := connection_expire ..
    refine ⟨connection, ?_⟩
    rw [Faithful, channel, connection]
    exact faithful_expire h
  | becomes s =>
    -- The socket may become any other one that keeps the connection and the writer.
    rw [step]
    split
    next same =>
      obtain ⟨connection, writer⟩ := same
      refine ⟨connection, ?_⟩
      show Socket.Faithful s.writer (feed.world.relay.channel s.connection) feed.begun
      rw [connection, writer]
      exact h
    next => exact ⟨rfl, h⟩

section
variable (limits : Limits) (candidates : Nat → String) (id : ConnId) (reading : Bool)

/-- **Whenever the writer came**, it has begun what there is to show of the first frames. -/
theorem faithful_run (events : List Event) :
    ((start limits candidates id reading).run events).connection = id ∧
    ((start limits candidates id reading).run events).Faithful := by
  induction events using List.reverseRecOn with
  | nil => exact ⟨rfl, Socket.faithful_fresh Channel.sound_gone rfl⟩
  | append_singleton events ev ih =>
    rw [run_snoc]
    obtain ⟨connection, faithful⟩ := step_faithful ih.2 ev
    exact ⟨connection.trans ih.1, faithful⟩

/-- One event of a feed, as the world sees it. -/
theorem world_step (feed : Feed) (ev : Event) :
    ∃ events : List World.Event,
      (events.filter (·.reader?.isNone)).Sublist ev.world?.toList ∧
      (feed.step ev).world = feed.world.run events := by
  have reads : ∀ {r : Relay}, Socket.ReadBy feed.connection feed.world.relay r →
      ∃ events : List World.Event, (events.filter (·.reader?.isNone)).Sublist [] ∧
        ({ feed.world with relay := r } : World) = feed.world.run events := by
    rintro r ⟨events, reads, same⟩
    -- All that a reader does is left out of what has to be matched.
    have none_left : events.filter (·.reader?.isNone) = [] := by
      rw [List.filter_eq_nil_iff]
      intro ev mem
      rw [reads ev mem]
      exact Bool.false_ne_true
    exact ⟨events, List.sublist_nil.mpr none_left, (same feed.world.calls).symm⟩
  cases ev with
  | world ev =>
    rw [step]
    split
    next => exact ⟨[], List.nil_sublist _, rfl⟩
    next => exact ⟨[ev], List.filter_sublist, rfl⟩
  | write fuel => exact reads (Socket.readBy_write ..)
  | expire => exact reads (Socket.readBy_expire ..)
  | becomes s =>
    refine ⟨[], List.nil_sublist _, ?_⟩
    rw [step]
    split <;> rfl

/-- **To the world, a socket is a reader**: apart from the frames that are taken, the world
has seen what happened in it. -/
theorem world_run (events : List Event) :
    ∃ seen : List World.Event,
      (seen.filter (·.reader?.isNone)).Sublist (events.filterMap Event.world?) ∧
      ((start limits candidates id reading).run events).world
        = (World.start limits candidates).run seen := by
  induction events using List.reverseRecOn with
  | nil => exact ⟨[], .refl _, rfl⟩
  | append_singleton events ev ih =>
    obtain ⟨seen, sub, same⟩ := ih
    obtain ⟨now, subNow, sameNow⟩ := world_step ((start limits candidates id reading).run events) ev
    refine ⟨seen ++ now, ?_, ?_⟩
    · rw [List.filter_append, List.filterMap_append]
      refine sub.append (subNow.trans ?_)
      cases ev <;> exact .refl _
    · rw [run_snoc, sameNow, same, World.run_append]

end

end Feed

end Rendezvous.WebSocket
