import Rendezvous.Proofs.Signaling.Arrival
import Rendezvous.Proofs.WebSocket.Inbox

/-!
# From the channel to the client

What a client gets passes from its channel into the transport, and from there to the client.
`given` is all of it, wherever it is: the texts that the client has seen, those in transit, and
those that wait. Neither a turn of the writer nor the client's own doings add to it, take from
it or change its order, as long as nothing asks the writer to close (`given_write`,
`given_view`, `given_receive`); an envelope that arrives goes to its end (`given_arrives`).
-/

namespace Rendezvous.WebSocket

/-- The texts among what a client is shown. -/
def texts (shown : List Shown) : List String :=
  shown.filterMap fun
    | .text s => some s
    | .pong _ | .close .. | .over => none

theorem texts_append (before after : List Shown) :
    texts (before ++ after) = texts before ++ texts after := List.filterMap_append ..

theorem texts_pongs (pongs : List (List UInt8)) : texts (pongs.map .pong) = [] := by
  rw [texts, List.filterMap_map, List.filterMap_eq_nil_iff]
  exact fun _ _ => rfl

/-- The texts of the frames of envelopes are their wire texts. -/
theorem texts_envelopes (es : List Envelope) :
    texts ((es.map Frame.envelope).map face) = es.map Envelope.wireText := by
  rw [texts, List.map_map, List.filterMap_map]
  exact congrFun (List.filterMap_eq_map (f := Envelope.wireText)) es

namespace Socket

variable {s : Socket} {r : Relay}

/-- The texts that the client has seen, those in transit, and those that wait for the writer. -/
def given (s : Socket) (r : Relay) : List String :=
  texts (s.seen ++ s.transit ++ (r.channel s.connection).queue.map face)

/-- A turn of the writer stays on its connection. -/
theorem connection_write (s : Socket) (r : Relay) (fuel : Nat) :
    (s.write fuel r).1.connection = s.connection := by
  induction fuel generalizing s r with
  | zero => rfl
  | succ fuel ih =>
    have pass := pass_write s r fuel
    generalize s.write (fuel + 1) r = result at pass ⊢
    cases pass with
    | begins active next => exact (ih _ _).trans (connection_startFrame ..)
    | stuck | waits | ends | stops => rfl

/-- The writer is at work, everything it writes gets to the client, and the connection is
served. -/
structure Passing (s : Socket) : Prop where
  flowing : s.Flowing
  going : s.serving.isDone = false

/-- What a turn of the writer comes to: it begins the first so many frames. -/
structure Turn (s : Socket) (r : Relay) (count : Nat) (result : Socket × Relay) : Prop where
  socket : result.1 = { s with
    transit := s.transit ++ ((r.channel s.connection).queue.take count).map face }
  rooms : result.2.rooms = r.rooms
  accepted : (result.2.channel s.connection).accepted = (r.channel s.connection).accepted
  taken : (result.2.channel s.connection).taken = (r.channel s.connection).taken + count

/-- A turn that takes nothing leaves the queue as it was. -/
theorem turn_still (s : Socket) {r r' : Relay} (rooms : r'.rooms = r.rooms)
    (same : r'.channel s.connection = r.channel s.connection) : Turn s r 0 (s, r') where
  socket := by
    rw [List.take_zero, List.map_nil, List.append_nil]
  rooms := rooms
  accepted := by rw [same]
  taken := by rw [same]; rfl

/-- One frame is begun, and then some of those behind it. -/
theorem Turn.behind {f : Frame} {rest : List Frame} {count : Nat} {result : Socket × Relay}
    (next : (r.channel s.connection).queue = f :: rest)
    (turn : Turn { s with transit := s.transit ++ [face f] } (r.take s.connection 1).2 count
      result) :
    Turn s r (count + 1) result := by
  obtain ⟨taken, -, queue⟩ := take_of_queue next
  have channel : (r.take s.connection 1).2.channel s.connection
      = ((r.channel s.connection).take 1).2 := channel_take ..
  obtain ⟨socket, rooms, accepted, taken'⟩ := turn
  change _ = { s with transit := (s.transit ++ [face f]) ++
    (((r.take s.connection 1).2.channel s.connection).queue.take count).map face } at socket
  change _ = ((r.take s.connection 1).2.channel s.connection).accepted at accepted
  change _ = ((r.take s.connection 1).2.channel s.connection).taken + count at taken'
  rw [channel] at socket accepted taken'
  refine ⟨?_, rooms, accepted, ?_⟩
  · rw [socket, queue, next, List.take_succ_cons, List.map_cons, List.append_assoc]
    rfl
  · rw [taken, Nat.add_assoc, Nat.add_comm 1] at taken'
    exact taken'

/-- **A turn of the writer** that has not been asked to close begins the frames that wait, in
order, and all of them if there is time. -/
theorem turn_write (passing : s.Passing) (sound : (r.channel s.connection).Sound)
    (plain : ∀ f ∈ (r.channel s.connection).queue, f.isClose = false) (fuel : Nat) :
    ∃ count, Turn s r count (s.write fuel r) ∧
      count ≤ (r.channel s.connection).queue.length ∧
      ((r.channel s.connection).queue.length < fuel →
        count = (r.channel s.connection).queue.length) := by
  -- The fuel bounds the frames that are begun. Each of them leaves a shorter queue and one unit
  -- less.
  induction fuel generalizing s r with
  | zero =>
    exact ⟨0, turn_still s rfl rfl, Nat.zero_le _,
      fun inTime => absurd inTime (Nat.not_lt_zero _)⟩
  | succ fuel ih =>
    have pass := pass_write s r fuel
    generalize s.write (fuel + 1) r = result at pass ⊢
    cases pass with
    | stuck isStuck =>
      rw [isStuck_of_reading passing.flowing.reading] at isStuck
      cases isStuck
    | waits active empty =>
      have same : (r.take s.connection 1).2.channel s.connection = r.channel s.connection := by
        rw [channel_take, take_of_empty sound empty]
      exact ⟨0, turn_still s rfl same, Nat.zero_le _, fun _ => by rw [empty]; rfl⟩
    | ends active empty finished =>
      rw [passing.going] at finished
      cases finished
    | stops inactive => exact absurd passing.flowing.active inactive
    | @begins f rest active next =>
      obtain ⟨-, -, queue⟩ := take_of_queue next
      rw [next] at plain
      have message : f.isClose = false := plain f List.mem_cons_self
      have begun : s.startFrame f = { s with transit := s.transit ++ [face f] } := by
        rw [startFrame_eq, passing.flowing.attending, passing.flowing.up, message]
        rfl
      have channel : (r.take s.connection 1).2.channel s.connection
          = ((r.channel s.connection).take 1).2 := channel_take ..
      have soundNext : ((r.take s.connection 1).2.channel s.connection).Sound := by
        rw [channel]
        exact Channel.sound_take ..
      rw [← channel] at queue
      have plainNext : ∀ g ∈ ((r.take s.connection 1).2.channel s.connection).queue,
          g.isClose = false := by
        rw [queue]
        exact fun g mem => plain g (List.mem_cons_of_mem f mem)
      obtain ⟨count, turn, few, all⟩ := ih
        (s := { s with transit := s.transit ++ [face f] }) (r := (r.take s.connection 1).2)
        ⟨⟨active, passing.flowing.reading, passing.flowing.up, passing.flowing.attending⟩,
          passing.going⟩ soundNext plainNext
      change count ≤ ((r.take s.connection 1).2.channel s.connection).queue.length at few
      change ((r.take s.connection 1).2.channel s.connection).queue.length < fuel →
        count = ((r.take s.connection 1).2.channel s.connection).queue.length at all
      rw [queue] at few all
      rw [begun, next, List.length_cons]
      exact ⟨count + 1, turn.behind next, Nat.succ_le_succ few, fun inTime => by
        rw [all (Nat.lt_of_succ_lt_succ inTime)]⟩

/-! ## Nothing is lost on the way -/

/-- A turn takes its frames off the front of the queue. -/
theorem Turn.queue {count : Nat} {result : Socket × Relay} (turn : Turn s r count result) :
    (result.2.channel s.connection).queue = (r.channel s.connection).queue.drop count := by
  rw [Channel.queue, turn.accepted, turn.taken, ← List.drop_drop]
  rfl

/-- What a client has been given, and what is on the way to it, is the same before and after. -/
theorem given_write {count : Nat} {result : Socket × Relay} (turn : Turn s r count result) :
    result.1.given result.2 = s.given r := by
  have queue := turn.queue
  have socket := turn.socket
  generalize result.1 = s' at socket
  subst socket
  show texts (s.seen ++ (s.transit ++ _) ++ (result.2.channel s.connection).queue.map face) = _
  rw [queue, List.append_assoc, List.append_assoc, ← List.map_append, List.take_append_drop,
    ← List.append_assoc, given]

/-- A turn that takes no more than waits keeps the connection where it sits. -/
theorem Turn.keeps {count : Nat} {result : Socket × Relay} (turn : Turn s r count result)
    (few : count ≤ (r.channel s.connection).queue.length) {code : String} {role : Role}
    (h : r.Keeps s.connection code role) : result.2.Keeps s.connection code role := by
  have seated : ∀ code role, result.2.Seated s.connection code role
      ↔ r.Seated s.connection code role := by
    intro code role
    rw [Relay.Seated, Relay.Seated, Relay.find?, turn.rooms]
    rfl
  refine ⟨turn.rooms ▸ h.keyed, (seated _ _).mpr h.seated,
    fun sits => h.only ((seated _ _).mp sits), ?_, turn.accepted ▸ h.plain⟩
  have sound : (r.channel s.connection).taken ≤ (r.channel s.connection).accepted.length := h.sound
  rw [Channel.queue, List.length_drop] at few
  show (result.2.channel s.connection).taken ≤ (result.2.channel s.connection).accepted.length
  rw [turn.taken, turn.accepted]
  omega

/-- The client takes over what is in transit. -/
theorem view_spec (s : Socket) :
    s.view.connection = s.connection ∧ s.view.writer = s.writer ∧
    texts (s.view.seen ++ s.view.transit) = texts (s.seen ++ s.transit) := by
  unfold view
  split
  next => exact ⟨rfl, rfl, rfl⟩
  next =>
    dsimp only
    cases s.transit.any _ <;> cases s.link <;>
      exact ⟨rfl, rfl, by simp [texts]⟩

/-- By looking on a client is given nothing that it had not been given. -/
theorem given_view (s : Socket) (r : Relay) : s.view.given r = s.given r := by
  obtain ⟨connection, -, same⟩ := s.view_spec
  rw [given, given, texts_append, same, connection, ← texts_append]

/-- A client that reads and is there has seen all that was in transit. -/
theorem texts_view (reading : s.reading = true) (present : s.isOver = false) :
    texts s.view.seen = texts (s.seen ++ s.transit) := by
  rw [← s.view_spec.2.2]
  have empty : s.view.transit = [] := by
    unfold view
    rw [reading, present, if_neg (by decide)]
    dsimp only
    cases s.transit.any _ <;> cases s.link <;> rfl
  rw [empty, List.append_nil]

/-- Nor is it by what it sends. -/
theorem given_receive (s : Socket) (r : Relay) (m : Message) :
    (s.receive m).given r = s.given r := by
  obtain ⟨pongs, transit⟩ := (s.received_receive m).transit
  rw [given, given, s.connection_receive m, (s.received_receive m).seen, transit,
    ← List.append_assoc s.seen, List.append_assoc _ (pongs.map _), texts_append,
    texts_append (pongs.map _), texts_pongs, List.nil_append, ← texts_append]

/-- Envelopes that arrive go to the end. -/
theorem given_arrives {r' : Relay} {es : List Envelope} (sound : (r.channel s.connection).Sound)
    (taken : (r'.channel s.connection).taken = (r.channel s.connection).taken)
    (accepted : (r'.channel s.connection).accepted
      = (r.channel s.connection).accepted ++ es.map .envelope) :
    s.given r' = s.given r ++ es.map Envelope.wireText := by
  have queue : (r'.channel s.connection).queue
      = (r.channel s.connection).queue ++ es.map .envelope := by
    rw [Channel.queue, taken, accepted, List.drop_append_of_le_length sound]
    rfl
  rw [given, given, queue, List.map_append, ← List.append_assoc, texts_append, texts_envelopes]

end Socket

end Rendezvous.WebSocket
