import Rendezvous.Proofs.Session.Delivery
import Rendezvous.Proofs.Signaling.Deed

/-!
# What connections are offered

Frames are pushed in a handful of places: a message is relayed, a backlog is handed over,
a connection is displaced, a room ends, or a call tells its own client something.
`Deed.offers` gathers them: the frames that one deed offers to one connection, in order.
Some of them may be refused, and nothing else is ever accepted (`grows_perform`).
-/

namespace Rendezvous

namespace Channel

/-- What becomes of a channel that is offered frames: it accepts some of them, and stays
where its reader left it unless that reader has come. -/
structure Grows (c : Channel) (frames : List Frame) (read : Prop) (c' : Channel) : Prop where
  gains : ∃ more, more.Sublist frames ∧ c'.accepted = c.accepted ++ more
  unread : ¬ read → c'.taken = c.taken
  sound : c.Sound → c'.Sound

theorem Grows.of_same {c c' : Channel} {read : Prop} (accepted : c'.accepted = c.accepted)
    (unread : ¬ read → c'.taken = c.taken) (sound : c.Sound → c'.Sound) : c.Grows [] read c' :=
  ⟨⟨[], .refl _, by rw [accepted, List.append_nil]⟩, unread, sound⟩

theorem Grows.refl (c : Channel) (read : Prop) : c.Grows [] read c :=
  .of_same rfl (fun _ => rfl) fun sound => sound

/-- Offering frames is all that makes a channel grow. -/
theorem grows_offerAll (c : Channel) (frames : List Frame) (read : Prop) :
    c.Grows frames read (c.offerAll frames) := by
  induction frames generalizing c with
  | nil => exact .refl c read
  | cons f rest ih =>
    have inTurn : c.offerAll (f :: rest) = (c.offer f).offerAll rest := rfl
    obtain ⟨⟨more, sub, accepted⟩, unread, sound⟩ := ih (c.offer f)
    rw [← inTurn] at accepted unread sound
    rcases Nat.eq_zero_or_pos c.free with full | free
    · rw [offer_of_full full] at accepted unread sound
      exact ⟨⟨more, sub.cons f, accepted⟩, unread, sound⟩
    · rw [offer_of_free free] at accepted unread sound
      refine ⟨⟨f :: more, sub.cons_cons f, ?_⟩, unread, fun before => ?_⟩
      · rw [accepted, List.append_assoc]
        rfl
      · exact sound (sound_append before [f])

end Channel

/-! ## Readers -/

theorem Lines.grows_take (lines : Lines) (id other : ConnId) (count : Nat) :
    (lines.get other).Grows [] (id = other) ((lines.take id count).2.get other) := by
  obtain ⟨accepted, sound⟩ := take_spec lines id other count
  refine .of_same accepted (fun differ => ?_) sound
  rw [get_take_ne fun e => differ e.symm]

theorem Lines.grows_drop (lines : Lines) (id other : ConnId) :
    (lines.get other).Grows [] (id = other) ((lines.drop id).get other) := by
  obtain ⟨accepted, sound⟩ := drop_spec lines id other
  refine .of_same accepted (fun differ => ?_) sound
  rw [get_drop_ne fun e => differ e.symm]

/-- To open a connection moves no reader and accepts nothing. -/
theorem Lines.grows_open (lines : Lines) (other : ConnId) (capacity : Nat) (read : Prop) :
    (lines.get other).Grows [] read ((lines.set lines.unused (.fresh capacity)).get other) := by
  obtain ⟨accepted, sound⟩ := open_spec lines other capacity
  refine .of_same accepted (fun _ => ?_) sound
  by_cases new : other = lines.unused
  · rw [new, get_set_self, get_unused]
    rfl
  · rw [get_set_ne new]

namespace Outlet

/-- What is told to one connection shows on that one only. -/
theorem channel_tell (o : Outlet) (id other : ConnId) (frames : List Frame) :
    (frames.foldl (fun o f => (o.push id f).2) o).channel other =
      (o.channel other).offerAll (if other = id then frames else []) := by
  induction frames generalizing o with
  | nil =>
    rw [ite_self]
    rfl
  | cons f rest ih =>
    rw [List.foldl_cons, ih]
    split
    next same =>
      subst same
      rw [channel_push_self]
      rfl
    next differ => rw [channel_push_ne differ]

/-- Of those that are asked to close, a connection is asked as often as it is named. -/
theorem channel_closeAll (o : Outlet) (ids : List ConnId) (reason : String) (id : ConnId) :
    (ids.foldl (fun o id => o.close id reason) o).channel id =
      (o.channel id).offerAll (List.replicate (ids.count id) (.close reason)) := by
  induction ids generalizing o with
  | nil => rfl
  | cons first rest ih =>
    rw [List.foldl_cons, ih]
    by_cases same : first = id
    · subst same
      rw [close, channel_push_self, List.count_cons_self, List.replicate_succ]
      rfl
    · rw [channel_close_ne fun e => same e.symm, List.count_cons_of_ne same]

end Outlet

namespace Session

/-- The frames that an event offers to a connection. -/
def Stage.offers (st : Stage) (id : ConnId) : Event → List Frame
  | .relay destination e =>
    if (st.session.slot destination).connection = some id then [.envelope e] else []
  | .attach role other =>
    (if id = other then (st.session.attach role other st.now).2.backlog.map .envelope else []) ++
      if (st.session.slot role).connection = some id then [.close replacedReason] else []
  | .close reason => List.replicate (st.session.connections.count id) (.close reason)
  | .detach .. | .claim _ | .clear | .connect _ | .take .. | .drop _ | .wait _ => []

/-- An attachment offers the backlog to the new connection, and a request to close to the former
one. -/
theorem channel_attach (st : Stage) (role : Role) (other id : ConnId) :
    (st.step (.attach role other)).channel id =
      (st.channel id).offerAll (st.offers id (.attach role other)) := by
  have handed : (st.handed role other).channel id = (st.channel id).offerAll
      (if id = other then (st.session.attach role other st.now).2.backlog.map .envelope
        else []) := by
    rw [channel_handed]
    split
    next same => rw [same]
    next => rfl
  show (st.step (.attach role other)).outlet.channel id = _
  rw [outlet_attach, Stage.offers, Channel.offerAll_append, ← handed]
  cases (st.session.slot role).connection with
  | none => rfl
  | some old =>
    dsimp only
    -- A connection may displace itself. Then the close goes behind its own backlog.
    by_cases same : id = old
    · subst same
      rw [Outlet.close, Outlet.channel_push_self, if_pos rfl]
      rfl
    · rw [Outlet.channel_close_ne same, if_neg fun e => same (Option.some.inj e).symm]
      rfl

/-- A connection is opened, or its reader moves. -/
def Event.isOutside : Event → Bool
  | .connect _ | .take .. | .drop _ => true
  | _ => false

/-- What the session itself does to a connection is to offer frames. -/
theorem channel_step (st : Stage) (ev : Event) (inside : ev.isOutside = false) (id : ConnId) :
    (st.step ev).channel id = (st.channel id).offerAll (st.offers id ev) := by
  cases ev with
  | relay destination e =>
    rw [channel_relay, Stage.offers]
    split <;> rfl
  | attach role other => exact channel_attach ..
  | close reason => exact Outlet.channel_closeAll ..
  | detach | claim | clear | wait => rfl
  | connect | take | drop => cases inside

/-- The connection whose reader an event is. -/
def Event.reader? : Event → Option ConnId
  | .take id _ | .drop id => some id
  | _ => none

/-- **A step adds what it offers, as far as it is taken**, and nothing else. -/
theorem grows_step (st : Stage) (id : ConnId) (ev : Event) :
    (st.channel id).Grows (st.offers id ev) (ev.reader? = some id) ((st.step ev).channel id) := by
  cases outside : ev.isOutside with
  | false =>
    rw [channel_step st ev outside]
    exact Channel.grows_offerAll ..
  | true =>
    cases ev with
    | connect capacity => exact Lines.grows_open ..
    | take other count =>
      rw [Event.reader?, Option.some.injEq]
      exact Lines.grows_take ..
    | drop other =>
      rw [Event.reader?, Option.some.injEq]
      exact Lines.grows_drop ..
    | relay | attach | detach | claim | clear | close | wait => cases outside

end Session

/-- The frames that a deed offers to a connection. -/
def Deed.offers (r : Relay) (id : ConnId) : Deed → List Frame
  | .remove code =>
    match r.find? code with
    | some s => Session.Stage.offers ⟨s, r.outlet, r.now⟩ id (.close Relay.endedReason)
    | none => []
  | .evict maxIdle =>
    List.replicate (((r.rooms.filter (r.isIdle maxIdle)).flatMap Session.connections).count id)
      (.close Relay.expiredReason)
  | .within code ev =>
    match r.find? code with
    | some s => Session.Stage.offers ⟨s, r.outlet, r.now⟩ id ev
    | none => []
  | .tell other frames => if id = other then frames else []
  | .nothing | .create _ | .connect _ | .take .. | .drop _ | .wait _ => []

/-- The connection whose reader a deed is. -/
def Deed.reader? : Deed → Option ConnId
  | .within _ ev => ev.reader?
  | .take id _ | .drop id => some id
  | _ => none

/-- A connection is opened, or its reader moves. -/
def Deed.isOutside : Deed → Bool
  | .within _ ev => ev.isOutside
  | .connect _ | .take .. | .drop _ => true
  | _ => false

namespace Relay

/-- A sweep asks every connection of the rooms that have expired to close. -/
theorem channel_expire (o : Outlet) (expired : List Session) (id : ConnId) :
    (expired.foldl expire o).channel id = (o.channel id).offerAll
      (List.replicate ((expired.flatMap Session.connections).count id)
        (.close expiredReason)) := by
  induction expired generalizing o with
  | nil => rfl
  | cons s rest ih =>
    have first : (expire o s).channel id = (o.channel id).offerAll
        (List.replicate (s.connections.count id) (.close expiredReason)) :=
      Outlet.channel_closeAll ..
    rw [List.foldl_cons, ih, first, List.flatMap_cons, List.count_append,
      ← List.replicate_append_replicate, Channel.offerAll_append]

/-- What a deed does to a connection is to offer frames, unless it opens one or is that of a
reader. -/
theorem channel_perform (r : Relay) {d : Deed} (inside : d.isOutside = false) (id : ConnId) :
    (r.perform d).channel id = (r.channel id).offerAll (d.offers r id) := by
  cases d with
  | create presenter =>
    show (r.create presenter).2.channel id = _
    unfold create
    split <;> rfl
  | remove code =>
    show (r.remove code).2.channel id = _
    rw [remove, Deed.offers]
    cases live : r.find? code with
    | none => rfl
    | some s => exact Session.channel_step ⟨s, r.outlet, r.now⟩ (.close endedReason) rfl id
  | evict maxIdle => exact channel_expire ..
  | within code ev =>
    rw [Deed.offers]
    cases live : r.find? code with
    | none =>
      rw [perform_of_gone live]
      rfl
    | some s =>
      rw [perform_of_live live]
      exact Session.channel_step ⟨s, r.outlet, r.now⟩ ev inside id
  | tell other frames => exact Outlet.channel_tell ..
  | nothing | wait => rfl
  | connect | take | drop => cases inside

/-- **What a connection accepts is part of what it is offered.** -/
theorem grows_perform (r : Relay) (d : Deed) (id : ConnId) :
    (r.channel id).Grows (d.offers r id) (d.reader? = some id) ((r.perform d).channel id) := by
  cases outside : d.isOutside with
  | false =>
    rw [channel_perform r outside]
    exact Channel.grows_offerAll ..
  | true =>
    cases d with
    | within code ev =>
      rw [Deed.offers, Deed.reader?]
      cases live : r.find? code with
      | none =>
        rw [perform_of_gone live]
        exact .refl ..
      | some s =>
        rw [perform_of_live live]
        exact Session.grows_step ⟨s, r.outlet, r.now⟩ id ev
    | connect capacity => exact Lines.grows_open ..
    | take other count =>
      rw [Deed.reader?, Option.some.injEq]
      exact Lines.grows_take ..
    | drop other =>
      rw [Deed.reader?, Option.some.injEq]
      exact Lines.grows_drop ..
    | nothing | create | remove | evict | tell | wait => cases outside

end Relay

namespace Signaling.World

/-- The connection whose reader an event is. -/
def Event.reader? : Event → Option ConnId
  | .take id _ | .drop id => some id
  | _ => none

/-- No call takes frames off a channel. -/
theorem Turn.reader? {w : World} {ev : Event} {d : Deed} (turn : w.Turn ev d) :
    d.reader? = ev.reader? := by
  cases turn with
  | outside isDeed calls => cases ev <;> cases isDeed <;> rfl
  | begins isServe quiet calls => rw [isServe, quiet]; rfl
  | moves isCall called move calls => cases ev <;> cases isCall <;> cases move <;> rfl
  | idles isCall uncalled quiet calls =>
    rw [quiet]
    cases ev <;> cases isCall <;> rfl

/-- What a step of the world makes of a channel. -/
theorem grows_turn {w : World} {ev : Event} {d : Deed} (turn : w.Turn ev d)
    (alike : (w.step ev).relay.Alike (w.relay.perform d)) (id : ConnId) :
    (w.relay.channel id).Grows (d.offers w.relay id) (ev.reader? = some id)
      ((w.step ev).relay.channel id) := by
  rw [alike.channel, ← turn.reader?]
  exact Relay.grows_perform ..

/-- After every run the reader of a channel is behind what was accepted. -/
theorem sound_run (limits : Limits) (candidates : Nat → String) (events : List Event)
    (id : ConnId) : (((start limits candidates).run events).relay.channel id).Sound := by
  induction events using List.reverseRecOn with
  | nil => exact Channel.sound_gone
  | append_singleton events ev ih =>
    obtain ⟨d, turn, alike⟩ := World.turn_step ((start limits candidates).run events) ev
    rw [run_snoc]
    exact (grows_turn turn alike id).sound ih

end Signaling.World

end Rendezvous
