import Rendezvous.Proofs.Session.Side

/-!
# What a session pushes

There are two occasions on which a session pushes an envelope: a message is relayed
to a side that has a connection, or a connection is attached and handed the backlog.
`Moment.pushes` says which envelopes those are, and on which connection, and
`envelopes_run` that over a whole run a connection gains these envelopes, in this
order, and no others.
-/

namespace Rendezvous.Session

/-! ## Relaying -/

/-- To send to a live connection is to push the message on it. -/
theorem send_of_connection (s : Session) (o : Outlet) {destination : Role} {id : ConnId}
    (h : (s.slot destination).connection = some id) (e : Envelope) (now : Instant) :
    s.send o destination e now =
      ((o.deliver id destination e).1.map fun _ => .sent, s.heard now destination e,
        (o.deliver id destination e).2) := by
  unfold send
  rw [relay_of_connection _ _ h]
  dsimp only
  split
  next delivered => rw [delivered]; rfl
  next refused => rw [refused]; rfl

/-- To send to nobody is to let the message wait, and to count it. -/
theorem send_of_none (s : Session) (o : Outlet) {destination : Role}
    (h : (s.slot destination).connection = none) (e : Envelope) (now : Instant) :
    s.send o destination e now =
      (.ok .buffered, (s.relay destination e now).1, { o with
        tally := o.tally.queued destination
          (decide (s.limits.pending ≤ (s.pending destination).length)) }) := by
  unfold send
  rw [relay_of_none _ _ h]

namespace Moment

/-- What relaying a message came to, unless it was refused. -/
def delivery? (m : Moment) : Option Delivery :=
  match m.event with
  | .relay destination e =>
    (m.before.session.send m.before.outlet destination e m.before.now).1.toOption
  | _ => none

/-- What a connection is handed when it is attached as a role. -/
def attachment (m : Moment) (role : Role) (id : ConnId) : Attachment :=
  (m.before.session.attach role id m.before.now).2

/-- The envelopes that a moment pushes on a connection. -/
def pushes (m : Moment) (id : ConnId) : List Envelope :=
  match m.event with
  | .relay destination e =>
    if m.delivery? = some .sent ∧ (m.before.session.slot destination).connection = some id then [e]
    else []
  | .attach role other =>
    if other = id then (m.attachment role id).backlog.take (m.before.channel id).free else []
  | _ => []

/-- A message for nobody is buffered. -/
theorem delivery?_of_none {m : Moment} {destination : Role} {e : Envelope}
    (isRelay : m.event = .relay destination e)
    (h : (m.before.session.slot destination).connection = none) :
    m.delivery? = some .buffered := by
  rw [delivery?, isRelay]
  show (m.before.session.send ..).1.toOption = _
  rw [send_of_none _ _ h]
  rfl

/-- A message for a live connection is sent exactly if there is a place for it. -/
theorem delivery?_of_connection {m : Moment} {destination : Role} {e : Envelope} {id : ConnId}
    (isRelay : m.event = .relay destination e)
    (h : (m.before.session.slot destination).connection = some id) :
    m.delivery? = if 0 < (m.before.channel id).free then some .sent else none := by
  rw [delivery?, isRelay]
  show (m.before.session.send ..).1.toOption = _
  rw [send_of_connection _ _ h]
  split
  next free =>
    rw [Outlet.deliver_of_none ((Channel.refusal?_eq_none_iff _).mpr free)]
    rfl
  next full =>
    cases refused : (m.before.outlet.channel id).refusal? with
    | none => exact absurd ((Channel.refusal?_eq_none_iff _).mp refused) full
    | some refusal =>
      rw [Outlet.deliver_of_refusal refused]
      rfl

/-- A relayed message is pushed on the connection of its destination, if that has
room for it. -/
theorem pushes_relay (st : Stage) (destination : Role) (e : Envelope) (id : ConnId) :
    pushes ⟨st, .relay destination e⟩ id =
      if (st.session.slot destination).connection = some id then [e].take (st.channel id).free
      else [] := by
  show (if delivery? ⟨st, .relay destination e⟩ = some .sent ∧
    (st.session.slot destination).connection = some id then [e] else []) = _
  split
  next both =>
    have free := delivery?_of_connection (m := ⟨st, .relay destination e⟩) rfl both.2
    rw [both.1] at free
    rw [if_pos both.2, List.take_of_length_le]
    show 0 < (st.channel id).free
    by_contra full
    rw [if_neg full] at free
    cases free
  next notBoth =>
    -- A connection is there and the envelope was not sent, so its channel had no room.
    split
    next live =>
      have full : (st.channel id).free = 0 := by
        by_contra free
        refine notBoth ⟨?_, live⟩
        rw [delivery?_of_connection (m := ⟨st, .relay destination e⟩) rfl live]
        exact if_pos (Nat.pos_of_ne_zero free)
      rw [full, List.take_zero]
    next => rfl

theorem pushes_attach (st : Stage) (role : Role) (other id : ConnId) :
    pushes ⟨st, .attach role other⟩ id =
      if other = id then
        (st.session.attach role id st.now).2.backlog.take (st.channel id).free
      else [] := rfl

end Moment

/-! ## Channels, step by step -/

/-- A relayed message is offered to the connection of its destination, and to no other. -/
theorem channel_relay (st : Stage) (destination : Role) (e : Envelope) (id : ConnId) :
    (st.step (.relay destination e)).channel id =
      if (st.session.slot destination).connection = some id then
        (st.channel id).offer (.envelope e)
      else st.channel id := by
  show (st.session.send ..).2.2.channel id = _
  cases h : (st.session.slot destination).connection with
  | none =>
    rw [send_of_none _ _ h, if_neg (by simp)]
    rfl
  | some live =>
    rw [send_of_connection _ _ h]
    show (st.outlet.deliver live destination e).2.channel id = _
    rw [Outlet.channel_deliver]
    by_cases same : id = live
    · subst same
      rw [if_pos rfl, Outlet.channel_push_self]
      rfl
    · rw [if_neg (fun e => same (Option.some.inj e).symm), Outlet.channel_push_ne same]
      rfl

/-- The outlet once the backlog of a newly attached connection has been delivered. -/
def Stage.handed (st : Stage) (role : Role) (id : ConnId) : Outlet :=
  (st.outlet.deliverAll id role (st.session.attach role id st.now).2.backlog).2

/-- After the backlog the connection that was there before is asked to close. -/
theorem outlet_attach (st : Stage) (role : Role) (id : ConnId) :
    (st.step (.attach role id)).outlet =
      match (st.session.slot role).connection with
      | some old => (st.handed role id).close old replacedReason
      | none => st.handed role id := rfl

/-- A backlog goes to the connection that is attached. -/
theorem channel_handed (st : Stage) (role : Role) (id other : ConnId) :
    (st.handed role id).channel other =
      if other = id then
        (st.channel id).offerAll ((st.session.attach role id st.now).2.backlog.map .envelope)
      else st.channel other := by
  split
  next same =>
    subst same
    exact Outlet.channel_deliverAll_self ..
  next differ => exact Outlet.channel_deliverAll_ne differ ..

/-- No event makes a reader run ahead of what was accepted. -/
theorem sound_step {st : Stage} (sound : st.outlet.Sound) (ev : Event) :
    (st.step ev).outlet.Sound := by
  cases ev with
  | relay destination e =>
    show (st.session.send ..).2.2.Sound
    cases h : (st.session.slot destination).connection with
    | none =>
      rw [send_of_none _ _ h]
      exact sound
    | some id =>
      rw [send_of_connection _ _ h]
      exact Outlet.sound_deliver sound id destination e
  | attach role id =>
    rw [outlet_attach]
    have handed : (st.handed role id).Sound := Outlet.sound_deliverAll sound id role _
    split
    · exact Outlet.sound_close handed _ _
    · exact handed
  | close reason => exact (Outlet.closeAll_spec sound _ reason).1
  | connect capacity => exact fun other => (Lines.open_spec ..).2 (sound other)
  | take id count => exact fun other => (Lines.take_spec ..).2 (sound other)
  | drop id => exact fun other => (Lines.drop_spec ..).2 (sound other)
  | detach role id => exact sound
  | claim user => exact sound
  | clear => exact sound
  | wait milliseconds => exact sound

/-- Nor does a run. -/
theorem sound_run {st : Stage} (sound : st.outlet.Sound) (events : List Event) :
    (st.run events).outlet.Sound := by
  induction events generalizing st with
  | nil => exact sound
  | cons ev rest ih =>
    rw [Stage.run_cons]
    exact ih (sound_step sound ev)

/-! ## Envelopes, step by step and run by run -/

theorem envelopes_of_accepted {c d : Channel} (h : c.accepted = d.accepted) :
    c.envelopes = d.envelopes ++ [] := by
  rw [List.append_nil, Channel.envelopes, h, Channel.envelopes]

/-- A step pushes what `Moment.pushes` says and nothing else. -/
theorem envelopes_step {m : Moment} (sound : m.before.outlet.Sound) (id : ConnId) :
    (m.after.channel id).envelopes = (m.before.channel id).envelopes ++ m.pushes id := by
  obtain ⟨st, ev⟩ := m
  have soundId : (st.channel id).Sound := sound id
  cases ev with
  | relay destination e =>
    show ((st.step (.relay destination e)).channel id).envelopes = _
    rw [channel_relay, Moment.pushes_relay]
    split
    · exact Channel.envelopes_offerAll soundId [e]
    · rw [List.append_nil]
  | attach role other =>
    have handed : ((st.handed role other).channel id).envelopes
        = (st.channel id).envelopes ++ Moment.pushes ⟨st, .attach role other⟩ id := by
      rw [channel_handed, Moment.pushes_attach]
      by_cases same : other = id
      · subst same
        rw [if_pos rfl, if_pos rfl, Channel.envelopes_offerAll soundId]
      · rw [if_neg (fun e => same e.symm), if_neg same, List.append_nil]
    show ((st.step (.attach role other)).outlet.channel id).envelopes = _
    rw [outlet_attach]
    -- The connection that was displaced gets a frame as well, but no envelope.
    split
    · rw [Outlet.envelopes_close]
      exact handed
    · exact handed
  | close reason =>
    rw [show Moment.pushes ⟨st, .close reason⟩ id = [] from rfl, List.append_nil]
    exact (Outlet.closeAll_spec sound _ reason).2 id
  | connect capacity => exact envelopes_of_accepted (Lines.open_spec ..).1
  | take other count => exact envelopes_of_accepted (Lines.take_spec ..).1
  | drop other => exact envelopes_of_accepted (Lines.drop_spec ..).1
  | detach role other => exact (List.append_nil _).symm
  | claim user => exact (List.append_nil _).symm
  | clear => exact (List.append_nil _).symm
  | wait milliseconds => exact (List.append_nil _).symm

/-- **Over a run a connection gains what the moments of the run push on it**, in
their order, and no other envelope. -/
theorem envelopes_run {st : Stage} (sound : st.outlet.Sound) (events : List Event)
    (id : ConnId) :
    ((st.run events).channel id).envelopes
      = (st.channel id).envelopes ++ (st.history events).flatMap (·.pushes id) := by
  induction events generalizing st with
  | nil => exact (List.append_nil _).symm
  | cons ev rest ih =>
    have first := envelopes_step (m := ⟨st, ev⟩) sound id
    rw [Stage.run_cons, ih (sound_step sound ev), Stage.history, List.flatMap_cons,
      ← List.append_assoc, ← first]
    rfl

end Rendezvous.Session
