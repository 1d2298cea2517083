import Rendezvous.Proofs.Session.Delivery
import Rendezvous.Proofs.Session.Memory

/-!
# The first connection of a role

A message for a role that has never had a connection waits, and is handed over when
the first one is attached. To the peer this is the same as if it had been there from
the start: the connection ends up with all messages, each once and in order, whenever
it came (`first_connect_transparent`).

Before it is attached the queue is all that was relayed, so nothing that is cached is
missing from what is flushed, and nothing is replayed. The connection is offered the
messages that waited and then every later one, which is to say all of them.
-/

namespace Rendezvous.Session

/-- The event may go on beside a role that is reserved for one connection: it is not
about the slot of the role, nor about the connection. Messages may be relayed in both
directions, and the connections of the other side come and go. -/
def Event.Spares (role : Role) (id : ConnId) : Event → Prop
  | .attach r other => r = role.peer ∧ other ≠ id
  | .detach r other => r = role → other ≠ id
  | .clear => role = .presenter
  | .close _ => False
  | .take other _ | .drop other => other ≠ id
  | .relay .. | .claim _ | .connect _ | .wait _ => True

section
variable {st : Stage} {role : Role} {id : ConnId} {ev : Event}

/-- The other side does not speak through the connection. -/
theorem connection_peer_ne (spares : ev.Spares role id)
    (apart : (st.session.slot role.peer).connection ≠ some id) :
    ((st.step ev).session.slot role.peer).connection ≠ some id := by
  rw [slot, side_step, Side.connection_step]
  cases ev with
  | attach r other =>
    obtain ⟨rfl, differ⟩ := spares
    rw [Side.connectionAfter, if_pos rfl]
    exact fun same => differ (Option.some.inj same)
  | detach r other | clear =>
    rw [Side.connectionAfter]
    split
    · exact (Option.some_ne_none id).symm
    · exact apart
  | close reason => exact spares.elim
  | relay destination e | claim user | connect capacity | take other count | drop other
  | wait milliseconds => exact apart

/-- The slot of the role stays as it is, empty or held by the connection. -/
theorem connection_kept (spares : ev.Spares role id)
    (own : ∀ other, (st.session.slot role).connection = some other → other = id) :
    ((st.step ev).session.slot role).connection = (st.session.slot role).connection := by
  rw [slot, side_step, Side.connection_step]
  cases ev with
  | attach r other =>
    obtain ⟨rfl, -⟩ := spares
    exact if_neg (Role.peer_ne role)
  | detach r other =>
    refine if_neg ?_
    rintro ⟨mine, held⟩
    exact spares mine (own other held)
  | clear =>
    obtain rfl : role = .presenter := spares
    rfl
  | close reason => exact spares.elim
  | relay destination e | claim user | connect capacity | take other count | drop other
  | wait milliseconds => rfl

/-! ## Before the connection is attached -/

/-- While nobody is there the queue takes in the messages for the role, and nothing else touches
it. -/
theorem pending_of_spares (spares : ev.Spares role id)
    (away : (st.session.slot role).connection = none) :
    (st.step ev).session.pending role =
      match ev.message? role with
      | some e => enqueue st.session.limits.pending e (st.session.pending role)
      | none => st.session.pending role := by
  cases ev with
  | relay destination e =>
    rw [pending_relay, Event.message?]
    by_cases mine : destination = role
    · rw [if_pos ⟨mine, away⟩, if_pos mine]
    · rw [if_neg mine, if_neg fun both => mine both.1]
  | attach r other =>
    obtain ⟨rfl, -⟩ := spares
    rw [pending_attach, if_neg (Role.peer_ne role)]
    rfl
  | _ => exact pending_of_other rfl rfl

end

/-- While a role is away, all that is relayed to it waits, as long as there is room. -/
theorem waiting_run (code presenter : String) (limits : Limits) (now : Instant) {role : Role}
    {id : ConnId} {events : List Event} (spares : ∀ ev ∈ events, ev.Spares role id)
    (room : (relayedTo role events).length ≤ limits.pending) {st : Stage}
    (reached : st = (Stage.start code presenter limits now).run events) :
    (st.session.slot role).connection = none ∧
    (st.session.slot role.peer).connection ≠ some id ∧
    st.session.pending role = relayedTo role events := by
  induction events using List.reverseRecOn generalizing st with
  | nil =>
    subst reached
    cases role <;> exact ⟨rfl, (Option.some_ne_none id).symm, rfl⟩
  | append_singleton events ev ih =>
    rw [relayedTo_snoc, List.length_append] at room
    have earlier : ∀ ev ∈ events, ev.Spares role id := fun x mem =>
      spares x (List.mem_append_left _ mem)
    have last : ev.Spares role id := spares ev (List.mem_append_right _ List.mem_cons_self)
    obtain ⟨away, apart, waiting⟩ := ih earlier (by omega) rfl
    rw [Stage.run_snoc] at reached
    subst reached
    refine ⟨?_, connection_peer_ne last apart, ?_⟩
    · rw [connection_kept last fun other held => by rw [away] at held; cases held]
      exact away
    · rw [pending_of_spares last away, limits_run, waiting, relayedTo_snoc]
      cases message : ev.message? role with
      | none => exact (List.append_nil _).symm
      | some e =>
        rw [message, Option.toList_some, List.length_singleton] at room
        -- One message fewer was relayed before, so there is room for this one.
        have below : ¬ limits.pending ≤ (relayedTo role events).length := by omega
        exact if_neg below

/-! ## While it is attached -/

section
variable {st : Stage} {role : Role} {id : ConnId}

/-- A connection that holds the slot is offered the messages for its role, and nothing
else happens to it. -/
theorem channel_of_spares {ev : Event} (spares : ev.Spares role id)
    (held : (st.session.slot role).connection = some id)
    (apart : (st.session.slot role.peer).connection ≠ some id)
    (live : (st.channel id).listening = true) :
    (st.step ev).channel id
      = (st.channel id).offerAll ((ev.message? role).toList.map .envelope) := by
  cases ev with
  | relay destination e =>
    rw [channel_relay, Event.message?]
    by_cases mine : destination = role
    · rw [if_pos mine, mine, if_pos held]
      rfl
    · -- The envelope goes to the other side, where this connection does not sit.
      obtain rfl := (Role.eq_or_eq_peer role destination).resolve_left mine
      rw [if_neg mine, if_neg apart]
      rfl
  | attach r other =>
    obtain ⟨rfl, differ⟩ := spares
    have handed : (st.handed role.peer other).channel id = st.channel id := by
      rw [channel_handed, if_neg fun same => differ same.symm]
    show (st.step (.attach role.peer other)).outlet.channel id = _
    rw [outlet_attach]
    split
    next old displaced =>
      -- The connection that is told to leave sat on the other side, so it is not this one.
      have otherwise : id ≠ old := fun same => apart (same ▸ displaced)
      rw [Outlet.channel_close_ne otherwise]
      exact handed
    next => exact handed
  | connect capacity => exact Lines.get_set_ne (Lines.ne_unused live) ..
  | take other count => exact Lines.get_take_ne (fun same => spares same.symm) ..
  | drop other => exact Lines.get_drop_ne (fun same => spares same.symm) ..
  | close reason => exact spares.elim
  | detach r other | claim user | clear | wait milliseconds => rfl

/-- From then on each message for the role is offered to the connection as it comes. -/
theorem channel_run (events : List Event) (spares : ∀ ev ∈ events, ev.Spares role id)
    (held : (st.session.slot role).connection = some id)
    (apart : (st.session.slot role.peer).connection ≠ some id)
    (live : (st.channel id).listening = true) :
    (st.run events).channel id
      = (st.channel id).offerAll ((relayedTo role events).map .envelope) := by
  induction events generalizing st with
  | nil => rfl
  | cons ev rest ih =>
    have first : ev.Spares role id := spares ev List.mem_cons_self
    have later : ∀ ev ∈ rest, ev.Spares role id := fun x mem =>
      spares x (List.mem_cons_of_mem _ mem)
    have offered := channel_of_spares first held apart live
    have own : ∀ other, (st.session.slot role).connection = some other → other = id := by
      intro other same
      rw [held] at same
      exact (Option.some.inj same).symm
    -- Of the next state the induction asks that it still sits there, only there, and listens.
    rw [Stage.run_cons, ih later, offered]
    · rw [← Channel.offerAll_append, ← List.map_append, ← relayedTo_cons]
    · rw [connection_kept first own]
      exact held
    · exact connection_peer_ne first apart
    · rw [offered, Channel.listening_offerAll]
      exact live

end

/-! ## When it is attached -/

/-- If all that was relayed waits, nothing is replayed behind it. -/
theorem replayed_eq_nil {limits : Limits} {received sent : List Envelope} {mine theirs : Side}
    (waiting : mine.pending = received) (caching : theirs.Follows limits sent received) :
    (theirs.cached.filter fun e => !mine.pending.contains e) = [] := by
  rw [List.filter_eq_nil_iff]
  intro e kept left
  have cached := (Side.mem_cached_iff caching.caches).mp kept
  have relayed : e ∈ mine.pending := waiting ▸ (Envelope.mem_of_latest (caching.latest cached)).1
  rw [List.contains_iff_exists_mem_beq.mpr ⟨e, relayed, e.same_self⟩] at left
  cases left

section
variable {st : Stage} {role : Role} {id : ConnId}

/-- An attached connection is handed what waits, and nothing else if this is all that
was relayed to its role. -/
theorem channel_attach_of_waiting {limits : Limits} {received sent : List Envelope}
    (away : (st.session.slot role).connection = none)
    (waiting : st.session.pending role = received)
    (caching : (st.session.side role.peer).Follows limits sent received) :
    (st.step (.attach role id)).channel id
      = (st.channel id).offerAll (received.map .envelope) := by
  have replayed : (st.session.attach role id st.now).2.replayed = [] :=
    replayed_eq_nil waiting caching
  have backlog : (st.session.attach role id st.now).2.backlog = received := by
    rw [Attachment.backlog, replayed, List.append_nil]
    exact waiting
  show (st.step (.attach role id)).outlet.channel id = _
  rw [outlet_attach, away]
  show (st.handed role id).channel id = _
  rw [channel_handed, if_pos rfl, backlog]

/-- Whoever is attached is connected. -/
theorem connection_attach_self (st : Stage) (role : Role) (id : ConnId) :
    ((st.step (.attach role id)).session.slot role).connection = some id := by
  rw [slot, side_step, Side.connection_step, Side.connectionAfter, if_pos rfl]

theorem connection_attach_peer (st : Stage) (role : Role) (id : ConnId) :
    ((st.step (.attach role id)).session.slot role.peer).connection
      = (st.session.slot role.peer).connection := by
  rw [slot, side_step, Side.connection_step, Side.connectionAfter, if_neg (Role.peer_ne role).symm]
  rfl

end

/-- **The time of the first connection does not matter.** Of any messages for a role that
has never had a connection, some first ones are relayed before a connection is attached,
not more than may wait, and the others after it; in between anything goes on that
concerns the other side. If the connection is fresh and has room for all the messages,
it has then accepted these and nothing else, in their order, and all of them are still
in its queue. -/
theorem first_connect_transparent (code presenter : String) (limits : Limits) (now : Instant)
    (role : Role) (id : ConnId) (capacity : Nat) (messages : List Envelope) (k : Nat)
    (before after : List Event) (within : k ≤ min messages.length limits.pending)
    (room : messages.length ≤ capacity)
    (spares : ∀ ev ∈ before ++ after, ev.Spares role id)
    (first : relayedTo role before = messages.take k)
    (later : relayedTo role after = messages.drop k)
    (fresh : ((Stage.start code presenter limits now).run before).channel id = .fresh capacity) :
    ((Stage.start code presenter limits now).run (before ++ .attach role id :: after)).channel id
      = { Channel.fresh capacity with accepted := messages.map .envelope } := by
  have early : ∀ ev ∈ before, ev.Spares role id := fun ev mem =>
    spares ev (List.mem_append_left _ mem)
  have late : ∀ ev ∈ after, ev.Spares role id := fun ev mem =>
    spares ev (List.mem_append_right _ mem)
  have few : (relayedTo role before).length ≤ limits.pending := by
    rw [first, List.length_take]
    omega
  have caching := follows_run code presenter limits now before role.peer
  rw [Role.peer_peer] at caching
  generalize reached : (Stage.start code presenter limits now).run before = st at fresh caching
  obtain ⟨away, apart, waiting⟩ := waiting_run code presenter limits now early few reached.symm
  have attached : (st.step (.attach role id)).channel id
      = (Channel.fresh capacity).offerAll ((messages.take k).map .envelope) := by
    rw [channel_attach_of_waiting away waiting caching, fresh, first]
  have live : ((st.step (.attach role id)).channel id).listening = true := by
    rw [attached, Channel.listening_offerAll]
    rfl
  rw [← connection_attach_peer st role id] at apart
  -- What it was handed and what it is offered from then on are all the messages, cut at `k`.
  have offered : ((st.step (.attach role id)).run after).channel id
      = (Channel.fresh capacity).offerAll (messages.map .envelope) := by
    rw [channel_run after late (connection_attach_self st role id) apart live, attached,
      ← Channel.offerAll_append, ← List.map_append, later, List.take_append_drop]
  have enough : (messages.map Frame.envelope).length ≤ (Channel.fresh capacity).free := by
    rw [List.length_map]
    exact Nat.le_trans room (Nat.le_max_left ..)
  rw [Stage.run_append, reached, Stage.run_cons, offered,
    Channel.offerAll_eq (Channel.sound_fresh capacity), List.take_of_length_le enough]
  rfl

/-- Messages with a repeated offer, one that is overwritten, one of a track the cache has
no room for, and a candidate. -/
def mixed : List Envelope :=
  [⟨.offer, .bool false, "video"⟩, ⟨.offer, .bool false, "video"⟩, ⟨.candidate, .null, "video"⟩,
    ⟨.offer, .bool true, "video"⟩, ⟨.offer, .null, "audio"⟩]

/-- Three of them wait for the viewer, and two come after it has joined and answered. -/
theorem first_connect_transparent_mixed :
    let early : List Event := .connect 5 :: (mixed.take 3).map (.relay .viewer)
    let late : List Event :=
      .relay .presenter ⟨.answer, .null, "video"⟩ :: (mixed.drop 3).map (.relay .viewer)
    ((Stage.start "room" "host" ⟨4, 1⟩ 0).run (early ++ .attach .viewer ⟨0⟩ :: late)).channel ⟨0⟩
      = { Channel.fresh 5 with accepted := mixed.map .envelope } :=
  first_connect_transparent "room" "host" ⟨4, 1⟩ 0 .viewer ⟨0⟩ 5 mixed 3
    (.connect 5 :: (mixed.take 3).map (.relay .viewer))
    (.relay .presenter ⟨.answer, .null, "video"⟩ :: (mixed.drop 3).map (.relay .viewer))
    (by decide) (by decide) (by simp [mixed, Event.Spares]) rfl rfl rfl

end Rendezvous.Session
