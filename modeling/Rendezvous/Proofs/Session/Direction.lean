import Rendezvous.Proofs.Accounts
import Rendezvous.Proofs.Session.Cache
import Rendezvous.Proofs.Signaling.Activity
import Rendezvous.Proofs.Signaling.Offers

/-!
# The two directions of a session

What is sent to a role passes through its slot, its queue, and the caches that the other side
fills: its `lane`. A session is two lanes as much as it is two sides, and each event moves
them one by one (`lane_step`). An event has a direction if it is on the way to one role, and
then it leaves the other lane alone, and all connections but those of its role.

Of two stages that are the `SameFor` a role the rest is of no concern to the role: what goes in
its direction comes to the same on both (`SameFor.step`), and what goes in the other does not
touch it (`sameFor_foreign`).
-/

namespace Rendezvous

namespace Side

/-- What an event makes of the lane to a role. A message for the role is remembered on the
same lane that it is received on. -/
def travel (limits : Limits) (role : Role) (lane : Side) : Session.Event → Side
  | .relay destination e =>
    if destination = role then (lane.receive limits.pending e).remember limits.tracks e else lane
  | ev => lane.step limits role ev

end Side

namespace Session

/-- What lies on the way to a role: its slot and its queue, with the caches of the other side. -/
def lane (s : Session) (role : Role) : Side :=
  { slot := s.slot role
    pending := s.pending role
    offers := (s.side role.peer).offers
    answers := (s.side role.peer).answers }

/-- A session is known by its two lanes, apart from its code, its limits and its time. -/
theorem ext_lanes {s s' : Session} (lanes : ∀ role, s.lane role = s'.lane role) :
    s.sides = s'.sides := by
  refine ByRole.ext_get fun role => ?_
  have here := lanes role
  have there := lanes role.peer
  unfold lane at here there
  rw [Role.peer_peer] at there
  obtain ⟨slot, pending, -, -⟩ := Side.mk.inj here
  obtain ⟨-, -, offers, answers⟩ := Side.mk.inj there
  show s.side role = s'.side role
  have parts : ∀ x y : Side, x.slot = y.slot → x.pending = y.pending → x.offers = y.offers →
      x.answers = y.answers → x = y := by
    intro x y hs hp ho ha
    cases x
    cases y
    simp_all
  exact parts _ _ slot pending offers answers

/-- **An event moves each lane by itself.** -/
theorem lane_step (st : Stage) (ev : Event) (role : Role) :
    (st.step ev).session.lane role =
      (st.session.lane role).travel st.session.limits role ev := by
  -- Without a message the caches stay, and of the slot and the queue each side has the say.
  have silently : (∀ destination e, ev ≠ .relay destination e) →
      (st.step ev).session.lane role =
        { (st.session.side role).step st.session.limits role ev with
          offers := (st.session.lane role).offers
          answers := (st.session.lane role).answers } := by
    intro silent
    have unsent : ev.message? role.peer.peer = none := by
      cases ev with
      | relay destination e => exact absurd rfl (silent destination e)
      | _ => rfl
    obtain ⟨offers, answers⟩ := Side.caches_of_unsent unsent st.session.limits
      (st.session.side role.peer)
    unfold lane slot pending
    rw [side_step, side_step, offers, answers]
  cases ev with
  | relay destination e =>
    unfold lane slot pending Side.travel
    rw [side_step, side_step, Side.step, Side.step]
    by_cases mine : destination = role
    · subst mine
      dsimp only
      rw [if_pos rfl, if_pos rfl, if_neg (Role.peer_ne destination).symm]
      unfold Side.remember Side.receive
      cases e.kind <;> rfl
    · have theirs : destination = role.peer :=
        (Role.eq_or_eq_peer role destination).resolve_left mine
      dsimp only
      rw [if_neg mine, if_neg mine, if_pos theirs, Side.slot_remember, Side.pending_remember]
      rfl
  | attach r id | claim user | clear =>
    rw [silently (by intro _ _ same; cases same)]
    unfold Side.travel Side.step
    dsimp only
    split <;> rfl
  | detach r id =>
    rw [silently (by intro _ _ same; cases same)]
    unfold Side.travel Side.step
    dsimp only
    by_cases held : r = role ∧ (st.session.side role).slot.connection = some id
    · have sits : r = role ∧ (st.session.lane role).slot.connection = some id := held
      rw [if_pos held, if_pos sits]
      cases role <;> rfl
    · have away : ¬ (r = role ∧ (st.session.lane role).slot.connection = some id) := held
      rw [if_neg held, if_neg away]
      rfl
  | close reason | connect capacity | take id count | drop id | wait milliseconds =>
    rw [silently (by intro _ _ same; cases same)]
    rfl

/-! ## What can be told of a step -/

/-- What an event is answered with. -/
inductive Outcome where
  | silence
  | relayed (result : Except Refusal Delivery)
  | attached (outcome : AttachOutcome)
  | detached (held : Bool)
  | opened (id : ConnId)
  | taken (frames : List Frame)

/-- What a moment is answered with. -/
def Moment.outcome (m : Moment) : Outcome :=
  match m.event with
  | .relay destination e =>
    .relayed (m.before.session.send m.before.outlet destination e m.before.now).1
  | .attach role id =>
    .attached (m.before.session.join m.before.outlet role id m.before.now).1
  | .detach role id => .detached (m.before.session.holds role id)
  | .connect _ => .opened m.before.outlet.lines.unused
  | .take id count => .taken (m.before.outlet.lines.take id count).1
  | .claim _ | .clear | .close _ | .drop _ | .wait _ => .silence

/-- How an event is counted. -/
def Stage.marks (st : Stage) : Event → List Tally.Mark
  | .relay destination e =>
    match (st.session.slot destination).connection with
    | some id => (st.channel id).marks destination [e]
    | none => [.queued destination
        (decide (st.session.limits.pending ≤ (st.session.pending destination).length))]
  | .attach role id => (st.channel id).marks role (st.session.attach role id st.now).2.backlog
  | .detach .. | .claim _ | .clear | .close _ | .connect _ | .take .. | .drop _ | .wait _ => []

/-- The tally of a step is the tally before with the marks of the event. -/
theorem tally_step (st : Stage) (ev : Event) :
    (st.step ev).outlet.tally = st.outlet.tally.markAll (st.marks ev) := by
  cases ev with
  | relay destination e =>
    show (st.session.send ..).2.2.tally = _
    rw [Stage.marks]
    cases h : (st.session.slot destination).connection with
    | none =>
      rw [send_of_none _ _ h]
      rfl
    | some id =>
      rw [send_of_connection _ _ h]
      have one := (st.outlet.deliverAll_marks id destination [e]).1
      rw [Outlet.deliverAll_cons] at one
      exact one
  | attach role id =>
    rw [outlet_attach]
    have handed : (st.handed role id).tally = _ := (Outlet.deliverAll_marks ..).1
    split
    · exact (Outlet.tally_push ..).trans handed
    · exact handed
  | close reason => exact Outlet.tally_closeAll ..
  | detach | claim | clear | connect | take | drop | wait => rfl

/-- Names come only with connections that are opened. -/
theorem names_step (st : Stage) (ev : Event) :
    (st.step ev).outlet.lines.names = st.outlet.lines.names ++
      match ev with
      | .connect _ => [st.outlet.lines.unused]
      | _ => [] := by
  cases ev with
  | connect capacity => exact Lines.names_open ..
  | relay destination e =>
    show (st.session.send ..).2.2.lines.names = _
    rw [List.append_nil]
    cases h : (st.session.slot destination).connection with
    | none => rw [send_of_none _ _ h]
    | some id =>
      rw [send_of_connection _ _ h]
      show (st.outlet.deliver id destination e).2.lines.names = _
      rw [Outlet.lines_deliver, Outlet.names_push]
  | attach role id =>
    have handed : (st.handed role id).lines.names = st.outlet.lines.names :=
      Outlet.names_deliverAll ..
    rw [outlet_attach, List.append_nil]
    split
    · exact (Outlet.names_push ..).trans handed
    · exact handed
  | close reason => exact (Outlet.names_closeAll ..).trans (List.append_nil _).symm
  | take id count => exact (Lines.names_take ..).trans (List.append_nil _).symm
  | drop id => exact (Lines.names_drop ..).trans (List.append_nil _).symm
  | detach | claim | clear | wait => exact (List.append_nil _).symm

/-- A connection that is opened has an empty channel under a new name. -/
theorem channel_connect (st : Stage) (capacity : Nat) (id : ConnId) :
    (st.step (.connect capacity)).channel id =
      if id = st.outlet.lines.unused then .fresh capacity else st.channel id := by
  split
  next new =>
    rw [new]
    exact Lines.get_set_self ..
  next differ => exact Lines.get_set_ne differ ..

theorem channel_take (st : Stage) (other id : ConnId) (count : Nat) :
    (st.step (.take other count)).channel id =
      if id = other then ((st.channel id).take count).2 else st.channel id := by
  split
  next same =>
    rw [same]
    exact Lines.get_take_self ..
  next differ => exact Lines.get_take_ne differ ..

theorem channel_drop (st : Stage) (other id : ConnId) :
    (st.step (.drop other)).channel id =
      if id = other then (st.channel id).drop else st.channel id := by
  split
  next same =>
    rw [same]
    exact Lines.get_drop_self ..
  next differ => exact Lines.get_drop_ne differ ..

/-! ## Directions -/

/-- The role that a connection is for. -/
def owner? (mine : Role → List ConnId) (id : ConnId) : Option Role :=
  Role.all.find? fun role => decide (id ∈ mine role)

/-- The role that an event is on the way to, for readers that of the connection. -/
def Event.direction? (mine : Role → List ConnId) : Event → Option Role
  | .relay destination _ => some destination
  | .attach role _ | .detach role _ => some role
  | .claim _ | .clear => some .viewer
  | .take id _ | .drop id => owner? mine id
  | .close _ | .connect _ | .wait _ => none

/-- An event of both directions: all connections are closed, or a new one is opened. -/
def Event.isShared : Event → Bool
  | .close _ | .connect _ => true
  | _ => false

/-- What a role has to do with: its own direction, and what is shared. -/
def Event.concerns (mine : Role → List ConnId) (role : Role) (ev : Event) : Bool :=
  ev.direction? mine == some role || ev.isShared

/-- No connection is for both roles. -/
def Apart (mine : Role → List ConnId) : Prop := ∀ role, ∀ id ∈ mine role, id ∉ mine role.peer

/-- The connections that an event attaches are for the role that they are attached as. -/
def Event.Admits (mine : Role → List ConnId) (ev : Event) : Prop :=
  ∀ role, ∀ id ∈ ev.attached? role, id ∈ mine role

/-- In each slot there is a connection for its role, or none. -/
def Stage.Seats (mine : Role → List ConnId) (st : Stage) : Prop :=
  ∀ role, ∀ id ∈ (st.session.slot role).connection, id ∈ mine role

section
variable {mine : Role → List ConnId} {role : Role} {st st' : Stage} {ev : Event} {id : ConnId}

theorem mem_of_owner? (owned : owner? mine id = some role) : id ∈ mine role := by
  simpa using List.find?_some owned

/-- Where roles share no connection, whoever it was attached as owns it. -/
theorem owner?_of_mem (apart : Apart mine) (own : id ∈ mine role) : owner? mine id = some role := by
  cases role with
  | presenter => exact List.find?_cons_of_pos (decide_eq_true own)
  | viewer =>
    have away : id ∉ mine .presenter := apart .viewer id own
    unfold owner? Role.all
    rw [List.find?_cons_of_neg (by simpa using away)]
    exact List.find?_cons_of_pos (decide_eq_true own)

theorem isShared_of_direction (directed : ev.direction? mine = some role) :
    ev.isShared = false := by
  cases ev with
  | close | connect => cases directed
  | _ => rfl

theorem concerns_of_direction (directed : ev.direction? mine = some role) :
    ev.concerns mine role = true ∧ ev.concerns mine role.peer = false := by
  have differ : role ≠ role.peer := (Role.peer_ne role).symm
  unfold Event.concerns
  rw [isShared_of_direction directed, directed]
  simp [differ]

/-- What concerns a role and is not shared goes in the direction of the role. -/
theorem direction_of_concerns (own : ev.concerns mine role = true) (apart : ev.isShared = false) :
    ev.direction? mine = some role := by
  rw [Event.concerns, apart, Bool.or_false] at own
  exact eq_of_beq own

/-- What is shared concerns every role. -/
theorem isShared_of_foreign (foreign : ev.concerns mine role = false) : ev.isShared = false := by
  rw [Event.concerns, Bool.or_eq_false_iff] at foreign
  exact foreign.2

/-- A slot is taken only by a connection that the events attach there. -/
theorem seats_step (seats : st.Seats mine) (admits : ev.Admits mine) :
    (st.step ev).Seats mine := by
  intro role id held
  rw [slot, side_step, Side.connection_step] at held
  cases ev with
  | attach r other =>
    rw [Side.connectionAfter] at held
    split at held
    next same => exact admits role id ((if_pos same).trans held)
    next => exact seats role id held
  | detach | clear =>
    rw [Side.connectionAfter] at held
    split at held
    · cases held
    · exact seats role id held
  | close => cases held
  | relay | claim | connect | take | drop | wait => exact seats role id held

/-- **What goes in one direction** shows on the connections of its role only. -/
theorem channel_of_direction (seats : st.Seats mine) (admits : ev.Admits mine)
    (directed : ev.direction? mine = some role) (away : id ∉ mine role) :
    (st.step ev).channel id = st.channel id := by
  have elsewhere : (st.session.slot role).connection ≠ some id :=
    fun held => away (seats role id held)
  cases ev with
  | relay destination e =>
    obtain rfl := Option.some.inj directed
    rw [channel_step st _ rfl, Stage.offers, if_neg elsewhere]
    rfl
  | attach r other =>
    obtain rfl := Option.some.inj directed
    -- Whoever attaches in this role is one of its own, and this connection is not.
    have differ : id ≠ other := by
      intro same
      subst same
      exact away (admits r id (by simp [Event.attached?]))
    rw [channel_step st _ rfl, Stage.offers, if_neg differ, if_neg elsewhere]
    rfl
  | take other count =>
    have differ : id ≠ other := fun same => away (same ▸ mem_of_owner? directed)
    rw [channel_take, if_neg differ]
  | drop other =>
    have differ : id ≠ other := fun same => away (same ▸ mem_of_owner? directed)
    rw [channel_drop, if_neg differ]
  | detach | claim | clear => rfl
  | close | connect | wait => cases directed

/-! ## Stages that are the same for a role -/

/-- What lies on the way to a role is the same on two stages: the lane, the limits it keeps to,
the channels of its connections, and the names that are given away. -/
structure SameFor (mine : Role → List ConnId) (role : Role) (st st' : Stage) : Prop where
  lane : st.session.lane role = st'.session.lane role
  limits : st.session.limits = st'.session.limits
  names : st.outlet.lines.names = st'.outlet.lines.names
  channels : ∀ id ∈ mine role, st.channel id = st'.channel id

theorem SameFor.symm (same : SameFor mine role st st') : SameFor mine role st' st :=
  ⟨same.lane.symm, same.limits.symm, same.names.symm, fun id own => (same.channels id own).symm⟩

theorem SameFor.trans {st'' : Stage} (same : SameFor mine role st st')
    (same' : SameFor mine role st' st'') : SameFor mine role st st'' :=
  ⟨same.lane.trans same'.lane, same.limits.trans same'.limits, same.names.trans same'.names,
    fun id own => (same.channels id own).trans (same'.channels id own)⟩

/-- What does not concern a role does not move its lane. -/
theorem travel_foreign (foreign : ev.concerns mine role = false) (limits : Limits) (lane : Side) :
    lane.travel limits role ev = lane := by
  have undirected : ev.direction? mine ≠ some role := by
    intro directed
    rw [(concerns_of_direction directed).1] at foreign
    cases foreign
  cases ev with
  | relay destination e => exact if_neg fun mine => undirected (congrArg some mine)
  | attach r id => exact if_neg fun mine => undirected (congrArg some mine)
  | detach r id => exact if_neg fun both => undirected (congrArg some both.1)
  | claim user => exact if_neg fun mine => undirected (congrArg some mine.symm)
  | clear => exact if_neg fun mine => undirected (congrArg some mine.symm)
  | close | connect => cases isShared_of_foreign foreign
  | take | drop | wait => rfl

/-- **What does not concern a role changes nothing for it.** -/
theorem sameFor_foreign (apart : Apart mine) (seats : st.Seats mine) (admits : ev.Admits mine)
    (foreign : ev.concerns mine role = false) : SameFor mine role st (st.step ev) where
  lane := by rw [lane_step, travel_foreign foreign]
  limits := (limits_step st ev).symm
  names := by
    rw [names_step]
    cases ev with
    | connect capacity => cases isShared_of_foreign foreign
    | _ => exact (List.append_nil _).symm
  channels := by
    intro id own
    -- A reader that is for no role is not that of `id`.
    have unowned : ∀ other, owner? mine other = none → id ≠ other := by
      intro other isNone same
      subst same
      rw [owner?_of_mem apart own] at isNone
      cases isNone
    cases directed : ev.direction? mine with
    | some r =>
      have theirs : r = role.peer := by
        refine (Role.eq_or_eq_peer role r).resolve_left ?_
        intro same
        subst same
        rw [(concerns_of_direction directed).1] at foreign
        cases foreign
      subst theirs
      exact (channel_of_direction seats admits directed (apart role id own)).symm
    | none =>
      cases ev with
      | take other count => rw [channel_take, if_neg fun same => unowned other directed same]
      | drop other => rw [channel_drop, if_neg fun same => unowned other directed same]
      | wait milliseconds => rfl
      | close | connect => cases isShared_of_foreign foreign
      | relay | attach | detach | claim | clear => cases directed

/-- What a newly attached connection is handed is on the lane to its role. -/
theorem attachment_eq (s : Session) (role : Role) (id : ConnId) (now : Instant) :
    (s.attach role id now).2 =
      ⟨(s.lane role).pending,
        (s.lane role).cached.filter fun e => !(s.lane role).pending.contains e,
        (s.lane role).slot.connection⟩ := rfl

/-- A connection for a role is asked to close if it sits in the slot of the role. -/
theorem count_connections (apart : Apart mine) (seats : st.Seats mine) (own : id ∈ mine role) :
    st.session.connections.count id =
      if (st.session.lane role).slot.connection = some id then 1 else 0 := by
  have away : (st.session.slot role.peer).connection ≠ some id :=
    fun held => apart role id own (seats role.peer id held)
  have both : st.session.connections.count id =
      ((st.session.slot .presenter).connection.toList ++
        (st.session.slot .viewer).connection.toList).count id := by
    unfold connections Role.all
    cases first : (st.session.slot .presenter).connection <;>
      cases second : (st.session.slot .viewer).connection <;> simp [first, second]
  have one : ∀ held : Option ConnId, held.toList.count id = if held = some id then 1 else 0 := by
    intro held
    cases held with
    | none => rfl
    | some other => simp [List.count_singleton]
  -- In the other slot there sits a connection of the other role, so not this one.
  rw [both, List.count_append, one, one]
  show _ = if (st.session.slot role).connection = some id then 1 else 0
  cases role with
  | presenter =>
    have absent : (st.session.slot .viewer).connection ≠ some id := away
    rw [if_neg absent, Nat.add_zero]
  | viewer =>
    have absent : (st.session.slot .presenter).connection ≠ some id := away
    rw [if_neg absent, Nat.zero_add]

/-- What a role's connections are offered by what concerns it, depends on its lane alone. -/
theorem SameFor.offers (same : SameFor mine role st st') (apart : Apart mine)
    (seats : st.Seats mine) (seats' : st'.Seats mine) (own : ev.concerns mine role = true)
    (isMine : id ∈ mine role) : st.offers id ev = st'.offers id ev := by
  have slots : (st.session.slot role).connection = (st'.session.slot role).connection :=
    congrArg (·.slot.connection) same.lane
  cases ev with
  | relay destination e =>
    obtain rfl : destination = role := Option.some.inj (direction_of_concerns own rfl)
    rw [Stage.offers, Stage.offers, slots]
  | attach r other =>
    obtain rfl : r = role := Option.some.inj (direction_of_concerns own rfl)
    rw [Stage.offers, Stage.offers, slots, attachment_eq, attachment_eq, same.lane]
  | close reason =>
    rw [Stage.offers, Stage.offers, count_connections apart seats isMine,
      count_connections apart seats' isMine, same.lane]
  | detach | claim | clear | connect | take | drop | wait => rfl

/-- **What concerns a role comes to the same for it** on stages that are the same for it. -/
theorem SameFor.step (same : SameFor mine role st st') (apart : Apart mine)
    (seats : st.Seats mine) (seats' : st'.Seats mine) (own : ev.concerns mine role = true) :
    SameFor mine role (st.step ev) (st'.step ev) where
  lane := by rw [lane_step, lane_step, same.lane, same.limits]
  limits := by rw [limits_step, limits_step, same.limits]
  names := by
    rw [names_step, names_step, same.names]
    cases ev with
    | connect capacity =>
      dsimp only
      rw [Lines.unused_congr same.names]
    | _ => rfl
  channels := by
    intro id isMine
    have before := same.channels id isMine
    -- Either the session offers frames to the channel, or it is opened, read or dropped.
    cases outside : ev.isOutside with
    | false =>
      rw [channel_step st ev outside, channel_step st' ev outside, before,
        same.offers apart seats seats' own isMine]
    | true =>
      cases ev with
      | connect capacity =>
        rw [channel_connect, channel_connect, Lines.unused_congr same.names, before]
      | take other count => rw [channel_take, channel_take, before]
      | drop other => rw [channel_drop, channel_drop, before]
      | relay | attach | detach | claim | clear | close | wait => cases outside

/-- What concerns a role is answered and counted in the same way, and is as much a sign of life,
on stages that are the same for it. -/
theorem SameFor.answers (same : SameFor mine role st st') (seats : st.Seats mine)
    (admits : ev.Admits mine) (own : ev.concerns mine role = true) :
    Moment.outcome ⟨st, ev⟩ = Moment.outcome ⟨st', ev⟩ ∧ st.marks ev = st'.marks ev ∧
      st.session.stirredBy ev = st'.session.stirredBy ev := by
  have slots : (st.session.slot role).connection = (st'.session.slot role).connection :=
    congrArg (·.slot.connection) same.lane
  cases ev with
  | relay destination e =>
    obtain rfl : destination = role := Option.some.inj (direction_of_concerns own rfl)
    cases live : (st.session.slot destination).connection with
    | none =>
      have live' : (st'.session.slot destination).connection = none := slots ▸ live
      refine ⟨?_, ?_, rfl⟩
      · show Outcome.relayed (st.session.send ..).1 = Outcome.relayed (st'.session.send ..).1
        rw [send_of_none _ _ live, send_of_none _ _ live']
      · have pending : st.session.pending destination = st'.session.pending destination :=
          congrArg (·.pending) same.lane
        rw [Stage.marks, Stage.marks, live, live', same.limits, pending]
    | some id =>
      have live' : (st'.session.slot destination).connection = some id := slots ▸ live
      have channels : st.outlet.channel id = st'.outlet.channel id :=
        same.channels id (seats destination id live)
      refine ⟨?_, ?_, rfl⟩
      · show Outcome.relayed (st.session.send ..).1 = Outcome.relayed (st'.session.send ..).1
        rw [send_of_connection _ _ live, send_of_connection _ _ live']
        -- The answer is the channel's own, and the channels agree.
        dsimp only
        cases refused : (st.outlet.channel id).refusal? with
        | none =>
          rw [Outlet.deliver_of_none refused, Outlet.deliver_of_none (channels ▸ refused)]
        | some refusal =>
          rw [Outlet.deliver_of_refusal refused, Outlet.deliver_of_refusal (channels ▸ refused)]
      · rw [Stage.marks, Stage.marks, live, live']
        exact congrArg (fun c : Channel => c.marks destination [e]) channels
  | attach r id =>
    obtain rfl : r = role := Option.some.inj (direction_of_concerns own rfl)
    have channels : st.outlet.channel id = st'.outlet.channel id :=
      same.channels id (admits r id (if_pos rfl))
    -- What is handed over depends on the lane alone, not on the time.
    have handed : (st.session.attach r id st.now).2 = (st'.session.attach r id st'.now).2 := by
      rw [attachment_eq, attachment_eq, same.lane]
    refine ⟨?_, ?_, rfl⟩
    · have answer : ∀ st : Stage, Moment.outcome ⟨st, .attach r id⟩ =
          .attached ⟨(st.session.attach r id st.now).2.flushed.length,
            (st.session.attach r id st.now).2.replayed.length,
            (st.outlet.deliverAll id r (st.session.attach r id st.now).2.backlog).1⟩ := fun _ => rfl
      rw [answer, answer, (Outlet.deliverAll_marks ..).2, (Outlet.deliverAll_marks ..).2, handed,
        channels]
    · rw [Stage.marks, Stage.marks, handed]
      exact congrArg (fun c : Channel => c.marks r _) channels
  | detach r id =>
    obtain rfl : r = role := Option.some.inj (direction_of_concerns own rfl)
    have held : st.session.holds r id = st'.session.holds r id := by
      unfold holds
      rw [slots]
    exact ⟨congrArg Outcome.detached held, rfl, held⟩
  | connect capacity =>
    exact ⟨congrArg Outcome.opened (Lines.unused_congr same.names), rfl, rfl⟩
  | take id count =>
    have owned : owner? mine id = some role := direction_of_concerns own rfl
    have channels : st.outlet.lines.get id = st'.outlet.lines.get id :=
      same.channels id (mem_of_owner? owned)
    exact ⟨congrArg (fun c : Channel => Outcome.taken (c.take count).1) channels, rfl, rfl⟩
  | claim | clear | close | drop | wait => exact ⟨rfl, rfl, rfl⟩

end

end Session

end Rendezvous
