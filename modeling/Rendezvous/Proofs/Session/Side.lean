import Rendezvous.Proofs.Session.Stage

/-!
# A session is two sides

What an event does to one side of a session depends on that side alone: on its
slot, its queue and its caches, never on those of the other side. So `Side.step`
says what an event makes of a side, and a session's run is the runs of its two sides
next to each other (`side_run`). Whatever is to be shown of a queue, a slot or a
cache over all runs is shown of one side moving by itself (`side_run_of_step`).
-/

namespace Rendezvous

namespace Side

/-- Takes a message for this side, which waits unless there is a connection. -/
def receive (side : Side) (limit : Nat) (e : Envelope) : Side :=
  { side with pending :=
      if side.slot.connection.isSome then side.pending
      else Session.enqueue limit e side.pending }

/-- Puts a connection into the slot and hands it the queue. -/
def connect (side : Side) (id : ConnId) : Side :=
  { side with slot := { side.slot with connection := some id }, pending := [] }

/-- The side with another slot. -/
def withSlot (side : Side) (slot : Slot) : Side := { side with slot }

/-- The slot of a role once its connection has left. -/
def released (side : Side) : Role → Slot
  | .viewer => .empty
  | .presenter => { side.slot with connection := none }

/-- What an event makes of the side of a role. -/
def step (limits : Limits) (role : Role) (side : Side) : Session.Event → Side
  | .relay destination e =>
    if destination = role then side.receive limits.pending e else side.remember limits.tracks e
  | .attach r id => if r = role then side.connect id else side
  | .detach r id =>
    if r = role ∧ side.slot.connection = some id then side.withSlot (side.released role) else side
  | .claim user =>
    if role = .viewer then side.withSlot { side.slot with identity := some user } else side
  | .clear => if role = .viewer then side.withSlot .empty else side
  | .close _ => side.withSlot { side.slot with connection := none }
  | .connect _ | .take _ _ | .drop _ | .wait _ => side

/-- What an event makes of the connection of a role. -/
def connectionAfter (side : Side) (role : Role) : Session.Event → Option ConnId
  | .attach r id => if r = role then some id else side.slot.connection
  | .detach r id =>
    if r = role ∧ side.slot.connection = some id then none else side.slot.connection
  | .clear => if role = .viewer then none else side.slot.connection
  | .close _ => none
  | .relay .. | .claim _ | .connect _ | .take .. | .drop _ | .wait _ => side.slot.connection

theorem slot_remember (side : Side) (limit : Nat) (e : Envelope) :
    (side.remember limit e).slot = side.slot := by
  unfold remember
  cases e.kind <;> rfl

theorem pending_remember (side : Side) (limit : Nat) (e : Envelope) :
    (side.remember limit e).pending = side.pending := by
  unfold remember
  cases e.kind <;> rfl

/-- Who is connected as a role after an event. -/
theorem connection_step (limits : Limits) (role : Role) (side : Side) (ev : Session.Event) :
    (side.step limits role ev).slot.connection = side.connectionAfter role ev := by
  cases ev with
  | relay destination e =>
    rw [step]
    split
    · rfl
    · rw [slot_remember]
      rfl
  | attach r id | claim user | clear =>
    rw [step, connectionAfter]
    split <;> rfl
  | detach r id =>
    rw [step, connectionAfter]
    split
    · cases role <;> rfl
    · rfl
  | close reason | connect capacity | take id count | drop id | wait milliseconds => rfl

end Side

namespace Session

section
variable (s : Session) (now : Instant)

@[simp] theorem side_modifySide_self (r : Role) (f : Side → Side) :
    (s.modifySide r f).side r = f (s.side r) := ByRole.get_modify_self ..

theorem side_modifySide_ne {r q : Role} (h : q ≠ r) (f : Side → Side) :
    (s.modifySide r f).side q = s.side q := by
  rw [(Role.eq_or_eq_peer r q).resolve_left h]
  exact ByRole.get_modify_peer ..

/-- To attach a connection is a matter of one side. -/
theorem side_attach (r q : Role) (id : ConnId) :
    (s.attach r id now).1.side q = if r = q then (s.side q).connect id else s.side q := by
  split
  next same =>
    subst same
    exact side_modifySide_self ..
  next differ => exact side_modifySide_ne _ (fun e => differ e.symm) _

/-- The session once the sender's side has remembered a message. -/
def heard (destination : Role) (e : Envelope) : Session :=
  (s.touch now).modifySide destination.peer (·.remember s.limits.tracks e)

theorem side_heard_self (destination : Role) (e : Envelope) :
    (s.heard now destination e).side destination = s.side destination :=
  side_modifySide_ne _ (Role.peer_ne destination).symm _

theorem side_heard_peer (destination : Role) (e : Envelope) :
    (s.heard now destination e).side destination.peer
      = (s.side destination.peer).remember s.limits.tracks e :=
  side_modifySide_self ..

/-- A message to a live connection goes on to it, after the sender's side has remembered it. -/
theorem relay_of_connection {destination : Role} {id : ConnId}
    (h : (s.slot destination).connection = some id) (e : Envelope) :
    s.relay destination e now = (s.heard now destination e, .live id) := by
  -- Which way a message goes is asked after the other side has remembered it, which
  -- leaves the slot of its destination alone.
  have still : ((s.heard now destination e).slot destination).connection = some id := by
    rw [slot, side_heard_self]
    exact h
  unfold heard at still
  unfold relay
  dsimp only
  rw [still]
  rfl

/-- A message to nobody waits. The queue tells whether one had to go for it. -/
theorem relay_of_none {destination : Role} (h : (s.slot destination).connection = none)
    (e : Envelope) :
    s.relay destination e now =
      ((s.heard now destination e).modifySide destination fun side =>
          { side with pending := enqueue s.limits.pending e side.pending },
        .queued (decide (s.limits.pending ≤ (s.pending destination).length))) := by
  -- Hearing an envelope changes the sender's side, never that of the destination.
  have same : (s.heard now destination e).side destination = s.side destination :=
    side_heard_self ..
  have still : ((s.heard now destination e).slot destination).connection = none := by
    rw [slot, same]
    exact h
  unfold heard at still
  unfold relay
  dsimp only
  rw [still]
  show (_, Route.queued (decide (s.limits.pending ≤
    ((s.heard now destination e).pending destination).length))) = _
  rw [pending, same]
  rfl

/-- Relaying keeps the code and the limits, and is a sign of life in any case. -/
theorem relay_spec (destination : Role) (e : Envelope) :
    (s.relay destination e now).1.code = s.code ∧
    (s.relay destination e now).1.limits = s.limits ∧
    (s.relay destination e now).1.lastActive = now := by
  cases h : (s.slot destination).connection with
  | some id =>
    rw [relay_of_connection s now h]
    exact ⟨rfl, rfl, rfl⟩
  | none =>
    rw [relay_of_none s now h]
    exact ⟨rfl, rfl, rfl⟩

/-- To relay a message is to receive it on one side and to remember it on the other. -/
theorem side_relay (destination q : Role) (e : Envelope) :
    (s.relay destination e now).1.side q =
      if destination = q then (s.side q).receive s.limits.pending e
      else (s.side q).remember s.limits.tracks e := by
  split
  next same =>
    subst same
    cases h : (s.slot destination).connection with
    | some id =>
      have connected : (s.side destination).slot.connection = some id := h
      rw [relay_of_connection s now h, side_heard_self, Side.receive, connected]
      rfl
    | none =>
      have absent : (s.side destination).slot.connection = none := h
      rw [relay_of_none s now h, side_modifySide_self, side_heard_self, Side.receive, absent]
      rfl
  next differ =>
    -- Of the two roles the other one is the sender.
    obtain rfl := (Role.eq_or_eq_peer destination q).resolve_left fun e => differ e.symm
    cases h : (s.slot destination).connection with
    | some id => rw [relay_of_connection s now h, side_heard_peer]
    | none =>
      rw [relay_of_none s now h, side_modifySide_ne _ (Role.peer_ne destination), side_heard_peer]

/-- A connection that leaves changes the slot it sits in, and no other. -/
theorem side_detach (r q : Role) (id : ConnId) :
    (s.detach r id now).side q =
      if r = q ∧ (s.side q).slot.connection = some id then
        (s.side q).withSlot ((s.side q).released q)
      else s.side q := by
  unfold detach holds
  by_cases held : ((s.slot r).connection == some id) = true
  · rw [if_pos held]
    have isHeld : (s.side r).slot.connection = some id := eq_of_beq held
    by_cases same : r = q
    · subst same
      rw [if_pos ⟨rfl, isHeld⟩]
      cases r <;> exact side_modifySide_self ..
    · rw [if_neg fun both => same both.1]
      cases r <;> exact side_modifySide_ne _ (fun e => same e.symm) _
  · rw [if_neg held, if_neg]
    rintro ⟨rfl, isHeld⟩
    exact held (beq_iff_eq.mpr isHeld)

theorem side_claimViewer (q : Role) (user : String) :
    (s.claimViewer user now).side q =
      if q = .viewer then (s.side q).withSlot { (s.side q).slot with identity := some user }
      else s.side q := by
  split
  next same =>
    subst same
    exact side_modifySide_self ..
  next differ => exact side_modifySide_ne _ differ _

theorem side_clearViewer (q : Role) :
    (s.clearViewer now).side q = if q = .viewer then (s.side q).withSlot .empty else s.side q := by
  split
  next same =>
    subst same
    exact side_modifySide_self ..
  next differ => exact side_modifySide_ne _ differ _

/-- A room that ends takes the connection out of either slot and keeps who they are of. -/
theorem side_disconnect (q : Role) :
    s.disconnect.side q = (s.side q).withSlot { (s.side q).slot with connection := none } := by
  cases q <;> rfl

end

/-- The connections of a session are those in its slots. -/
theorem mem_connections {s : Session} {id : ConnId} :
    id ∈ s.connections ↔ ∃ role, (s.slot role).connection = some id := by
  unfold connections
  rw [List.mem_filterMap]
  refine ⟨fun ⟨role, _, held⟩ => ⟨role, held⟩, fun ⟨role, held⟩ => ⟨role, ?_, held⟩⟩
  cases role <;> decide

/-! ## Steps of one side -/

/-- What a session becomes does not depend on whether the connection took the message. -/
theorem send_session (s : Session) (o : Outlet) (destination : Role) (e : Envelope)
    (now : Instant) : (s.send o destination e now).2.1 = (s.relay destination e now).1 := by
  unfold send
  split
  next relayed =>
    rw [relayed]
    split <;> rfl
  next relayed => rw [relayed]

/-- An event changes each side of a session by itself. -/
theorem side_step (st : Stage) (ev : Event) (q : Role) :
    (st.step ev).session.side q = (st.session.side q).step st.session.limits q ev := by
  cases ev with
  | relay destination e =>
    show (st.session.send ..).2.1.side q = _
    rw [send_session]
    exact side_relay ..
  | attach r id => exact side_attach ..
  | detach r id => exact side_detach ..
  | claim user => exact side_claimViewer ..
  | clear => exact side_clearViewer ..
  | close reason => exact side_disconnect ..
  | connect capacity => rfl
  | take id count => rfl
  | drop id => rfl
  | wait milliseconds => rfl

/-! ## Queues -/

/-- What relaying a message makes of the queue of a role. -/
theorem pending_relay (st : Stage) (destination role : Role) (e : Envelope) :
    (st.step (.relay destination e)).session.pending role =
      if destination = role ∧ (st.session.slot role).connection = none then
        enqueue st.session.limits.pending e (st.session.pending role)
      else st.session.pending role := by
  rw [pending, side_step, Side.step]
  by_cases mine : destination = role
  · subst mine
    rw [if_pos rfl, Side.receive]
    show (if (st.session.slot destination).connection.isSome then _ else _) = if _ then _ else _
    cases connected : (st.session.slot destination).connection with
    | none => exact (if_pos ⟨rfl, rfl⟩).symm
    | some id => exact (if_neg (by simp)).symm
  · rw [if_neg mine, Side.pending_remember]
    exact (if_neg fun both => mine both.1).symm

/-- Attaching a connection empties the queue of its role. -/
theorem pending_attach (st : Stage) (r role : Role) (id : ConnId) :
    (st.step (.attach r id)).session.pending role =
      if r = role then [] else st.session.pending role := by
  rw [pending, side_step, Side.step]
  split <;> rfl

/-- Nothing else changes a queue. -/
theorem pending_of_other {st : Stage} {ev : Event} {role : Role}
    (noMessage : ev.message? role = none) (noAttach : ev.attached? role = none) :
    (st.step ev).session.pending role = st.session.pending role := by
  cases ev with
  | relay destination e =>
    rw [pending_relay, if_neg]
    rintro ⟨mine, -⟩
    rw [Event.message?, if_pos mine] at noMessage
    cases noMessage
  | attach r id =>
    rw [pending_attach, if_neg]
    intro mine
    rw [Event.attached?, if_pos mine] at noAttach
    cases noAttach
  | detach r id | claim user | clear =>
    rw [pending, side_step, Side.step]
    split <;> rfl
  | close reason | connect capacity | take id count | drop id | wait milliseconds =>
    rw [pending, side_step]
    rfl

/-! ## Runs of one side -/

/-- The limits of a session never change. -/
theorem limits_step (st : Stage) (ev : Event) :
    (st.step ev).session.limits = st.session.limits := by
  cases ev with
  | relay destination e =>
    show (st.session.send ..).2.1.limits = _
    rw [send_session]
    exact (relay_spec ..).2.1
  | detach r id =>
    show (st.session.detach r id st.now).limits = _
    unfold detach
    split
    · cases r <;> rfl
    · rfl
  | _ => rfl

theorem limits_run (st : Stage) (events : List Event) :
    (st.run events).session.limits = st.session.limits := by
  induction events generalizing st with
  | nil => rfl
  | cons ev rest ih => rw [Stage.run_cons, ih, limits_step]

/-- **Each side runs by itself.** -/
theorem side_run (st : Stage) (events : List Event) (q : Role) :
    (st.run events).session.side q =
      events.foldl (Side.step st.session.limits q) (st.session.side q) := by
  induction events generalizing st with
  | nil => rfl
  | cons ev rest ih => rw [Stage.run_cons, ih, limits_step, side_step, List.foldl_cons]

/-- What every event keeps of a side holds of that side after every run. -/
theorem side_run_of_step {P : Side → Prop} {st : Stage} {q : Role} (begins : P (st.session.side q))
    (keeps : ∀ side ev, P side → P (side.step st.session.limits q ev)) (events : List Event) :
    P ((st.run events).session.side q) := by
  rw [side_run]
  exact List.foldlRecOn events _ begins fun side held ev _ => keeps side ev held

end Session

end Rendezvous
