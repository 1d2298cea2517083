import Rendezvous.Proofs.Session.Direction
import Rendezvous.Proofs.Session.Ledger
import Rendezvous.Proofs.Session.Memory

/-!
# Directions that do not see each other

As long as no connection is attached for both roles, what goes to one role is independent of
what goes to the other. A run comes to the same for a role as the part of it that concerns the
role (`sameFor_run`), and two neighbouring events of different directions may change places
(`step_comm`). So whatever a peer is shown was sent to it, and never by it
(`directions_independent`).
-/

namespace Rendezvous.Session

/-- The connections that are attached as a role in a run. -/
def attachedAs (events : List Event) (role : Role) : List ConnId :=
  events.filterMap (·.attached? role)

/-- The part of a run that concerns a role. -/
def toward (role : Role) (events : List Event) : List Event :=
  events.filter (·.concerns (attachedAs events) role)

theorem admits_of_mem {events : List Event} {ev : Event} (mem : ev ∈ events) :
    ev.Admits (attachedAs events) := fun _ _ attached => List.mem_filterMap.mpr ⟨ev, mem, attached⟩

section
variable {mine : Role → List ConnId} {role : Role} {st st' : Stage} {a b : Event}

/-- After every run there is in each slot a connection for its role, or none. -/
theorem seats_run (seats : st.Seats mine) (events : List Event)
    (admits : ∀ ev ∈ events, ev.Admits mine) : (st.run events).Seats mine := by
  induction events generalizing st with
  | nil => exact seats
  | cons ev rest ih =>
    exact ih (seats_step seats (admits ev List.mem_cons_self))
      fun x mem => admits x (List.mem_cons_of_mem _ mem)

/-- **A run comes to the same for a role** as the part of it that concerns the role, and that
part is answered in the same way. -/
theorem sameFor_run (apart : Apart mine) (seats : st.Seats mine) (seats' : st'.Seats mine)
    (same : SameFor mine role st st') (events : List Event)
    (admits : ∀ ev ∈ events, ev.Admits mine) :
    SameFor mine role (st.run events) (st'.run (events.filter (·.concerns mine role))) ∧
    ((st.history events).filter (·.event.concerns mine role)).map Moment.outcome =
      (st'.history (events.filter (·.concerns mine role))).map Moment.outcome := by
  -- What concerns the role moves both stages, and all else the first of them only.
  induction events generalizing st st' with
  | nil => exact ⟨same, rfl⟩
  | cons ev rest ih =>
    have admitted := admits ev List.mem_cons_self
    have later : ∀ x ∈ rest, x.Admits mine := fun x mem => admits x (List.mem_cons_of_mem _ mem)
    cases own : ev.concerns mine role with
    | true =>
      obtain ⟨runs, answers⟩ := ih (seats_step seats admitted) (seats_step seats' admitted)
        (same.step apart seats seats' own) later
      have first : (st.history (ev :: rest)).filter (·.event.concerns mine role) =
          ⟨st, ev⟩ :: ((st.step ev).history rest).filter (·.event.concerns mine role) :=
        List.filter_cons_of_pos own
      rw [List.filter_cons_of_pos own, first, Stage.history, List.map_cons, List.map_cons, answers,
        (same.answers seats admitted own).1]
      exact ⟨runs, rfl⟩
    | false =>
      have foreign := sameFor_foreign apart seats admitted own
      have still : SameFor mine role (st.step ev) st' := foreign.symm.trans same
      obtain ⟨runs, answers⟩ := ih (seats_step seats admitted) seats' still later
      have skipped : ¬ ev.concerns mine role = true := ne_true_of_eq_false own
      have first : (st.history (ev :: rest)).filter (·.event.concerns mine role) =
          ((st.step ev).history rest).filter (·.event.concerns mine role) :=
        List.filter_cons_of_neg skipped
      rw [List.filter_cons_of_neg skipped, first]
      exact ⟨runs, answers⟩

/-! ## Changing places -/

/-- No event of a single direction lets time pass. -/
theorem now_of_direction {ev : Event} (directed : ev.direction? mine = some role) (st : Stage) :
    (st.step ev).now = st.now := by
  cases ev with
  | wait => cases directed
  | _ => rfl

/-- For the role that it is on the way to, an event may change places with one of the other
direction. -/
theorem sameFor_swap (apart : Apart mine) (seats : st.Seats mine) (admitsA : a.Admits mine)
    (admitsB : b.Admits mine) (here : a.direction? mine = some role)
    (there : b.direction? mine = some role.peer) :
    SameFor mine role ((st.step a).step b) ((st.step b).step a) ∧
    Moment.outcome ⟨st, a⟩ = Moment.outcome ⟨st.step b, a⟩ ∧
    st.marks a = (st.step b).marks a ∧
    st.session.stirredBy a = (st.step b).session.stirredBy a := by
  have own := (concerns_of_direction here).1
  have foreign : b.concerns mine role = false := by
    have other := (concerns_of_direction there).2
    rwa [Role.peer_peer] at other
  have skipped := sameFor_foreign apart seats admitsB foreign
  have stepped := skipped.step apart seats (seats_step seats admitsB) own
  have after := sameFor_foreign apart (seats_step seats admitsA) admitsB foreign
  exact ⟨after.symm.trans stepped, skipped.answers seats admitsA own⟩

/-- **Neighbours of different directions may change places.** -/
theorem step_comm (apart : Apart mine) (seats : st.Seats mine)
    (distinct : st.outlet.lines.names.Nodup) (admitsA : a.Admits mine) (admitsB : b.Admits mine)
    (here : a.direction? mine = some role) (there : b.direction? mine = some role.peer) :
    (st.step a).step b = (st.step b).step a ∧
    Moment.outcome ⟨st.step b, a⟩ = Moment.outcome ⟨st, a⟩ ∧
    Moment.outcome ⟨st.step a, b⟩ = Moment.outcome ⟨st, b⟩ := by
  have back : a.direction? mine = some role.peer.peer := by rw [Role.peer_peer, here]
  obtain ⟨mineSame, outcomeA, marksA, stirsA⟩ := sameFor_swap apart seats admitsA admitsB here there
  obtain ⟨theirsSame, outcomeB, marksB, stirsB⟩ :=
    sameFor_swap apart seats admitsB admitsA there back
  refine ⟨?_, outcomeA.symm, outcomeB.symm⟩
  have now : ((st.step a).step b).now = ((st.step b).step a).now := by
    rw [now_of_direction there, now_of_direction here, now_of_direction here,
      now_of_direction there]
  have sides : ((st.step a).step b).session.sides = ((st.step b).step a).session.sides := by
    refine ext_lanes fun r => ?_
    rcases Role.eq_or_eq_peer role r with rfl | rfl
    · exact mineSame.lane
    · exact theirsSame.lane.symm
  -- Both events happen at the same instant, so it does not matter which of them stirs last.
  have lastActive : ((st.step a).step b).session.lastActive
      = ((st.step b).step a).session.lastActive := by
    rw [lastActive_step, lastActive_step, lastActive_step, lastActive_step,
      now_of_direction here, now_of_direction there, ← stirsA, ← stirsB]
    cases st.session.stirredBy a <;> cases st.session.stirredBy b <;> rfl
  have code : ((st.step a).step b).session.code = ((st.step b).step a).session.code := by
    rw [code_step, code_step, code_step, code_step]
  -- The two leave the same marks in either order, and marks commute.
  have tally : ((st.step a).step b).outlet.tally = ((st.step b).step a).outlet.tally := by
    rw [tally_step, tally_step, tally_step, tally_step, ← marksA, ← marksB, Tally.markAll_comm]
  have channels : ∀ id, ((st.step a).step b).channel id = ((st.step b).step a).channel id := by
    intro id
    by_cases isMine : id ∈ mine role
    · exact mineSame.channels id isMine
    · by_cases isTheirs : id ∈ mine role.peer
      · exact (theirsSame.channels id isTheirs).symm
      · -- A connection of neither role is touched by neither event.
        rw [channel_of_direction (seats_step seats admitsA) admitsB there isTheirs,
          channel_of_direction seats admitsA here isMine,
          channel_of_direction (seats_step seats admitsB) admitsA here isMine,
          channel_of_direction seats admitsB there isTheirs]
  have names : ∀ {ev : Event} {r : Role} (st : Stage), ev.direction? mine = some r →
      (st.step ev).outlet.lines.names = st.outlet.lines.names := by
    intro ev r st directed
    rw [names_step]
    cases ev with
    | connect => cases directed
    | _ => exact List.append_nil _
  -- Lines are equal when they have the same names and each name the same channel.
  have outlet : ((st.step a).step b).outlet = ((st.step b).step a).outlet := by
    refine Outlet.ext_channels mineSame.names ?_ channels tally
    rw [names _ there, names _ here]
    exact distinct
  have session : ((st.step a).step b).session = ((st.step b).step a).session := by
    have limits := mineSame.limits
    cases x : ((st.step a).step b).session
    cases y : ((st.step b).step a).session
    rw [x, y] at sides lastActive code limits
    cases sides
    cases lastActive
    cases code
    cases limits
    rfl
  cases x : (st.step a).step b
  cases y : (st.step b).step a
  rw [x, y] at session outlet now
  cases session
  cases outlet
  cases now
  rfl

end

/-! ## Runs -/

section
variable {events : List Event} {role : Role} {e : Envelope}

/-- Messages for a role come from the events that relay them. -/
theorem mem_relayedTo : e ∈ relayedTo role events ↔ .relay role e ∈ events := by
  rw [relayedTo, List.mem_filterMap]
  constructor
  · intro ⟨ev, mem, isMessage⟩
    cases ev with
    | relay destination x =>
      rw [Event.message?] at isMessage
      split at isMessage
      next same =>
        subst same
        obtain rfl := Option.some.inj isMessage
        exact mem
      next => cases isMessage
    | _ => cases isMessage
  · intro mem
    exact ⟨_, mem, if_pos rfl⟩

/-- The moments of a run are those of its events. -/
theorem event_of_mem_history {st : Stage} {m : Moment} (mem : m ∈ st.history events) :
    m.event ∈ events := by
  induction events generalizing st with
  | nil => cases mem
  | cons ev rest ih =>
    rcases List.mem_cons.mp mem with rfl | later
    · exact List.mem_cons_self
    · exact List.mem_cons_of_mem _ (ih later)

/-- Whatever was pushed on a connection was relayed to one of the roles. -/
theorem relayed_of_mem_envelopes (code presenter : String) (limits : Limits) (now : Instant)
    {id : ConnId}
    (mem : e ∈ (((Stage.start code presenter limits now).run events).channel id).envelopes) :
    ∃ role, e ∈ relayedTo role events := by
  have sound : (Stage.start code presenter limits now).outlet.Sound := Outlet.sound_empty
  rw [envelopes_run sound] at mem
  have isPushed : e ∈ ((Stage.start code presenter limits now).history events).flatMap
      (·.pushes id) := by
    simpa [Stage.channel, Stage.start, Outlet.empty, Outlet.channel, Lines.get, Lines.empty,
      Channel.envelopes, Channel.gone] using mem
  obtain ⟨m, inHistory, pushed⟩ := List.mem_flatMap.mp isPushed
  rcases Moment.explains_of_mem_pushes pushed with ⟨role, isRelay, -⟩ | ⟨role, -, waited⟩
  · exact ⟨role, mem_relayedTo.mpr (isRelay ▸ event_of_mem_history inHistory)⟩
  · -- What is handed to a new connection came earlier, for its role.
    obtain ⟨earlier, isPrefix, before⟩ := Stage.before_of_mem_history inHistory
    have sooner : ∀ role, e ∈ relayedTo role earlier → ∃ role, e ∈ relayedTo role events :=
      fun role mem => ⟨role, mem_relayedTo.mpr (isPrefix.subset (mem_relayedTo.mp mem))⟩
    rw [before] at waited
    rcases waited with pending | cached
    · exact sooner role ((follows_run code presenter limits now earlier role).suffix.subset pending)
    · have kept := follows_run code presenter limits now earlier role.peer
      have latest := kept.latest ((Side.mem_cached_iff kept.caches).mp cached)
      exact sooner _ (Envelope.mem_of_latest latest).1

/-- No name is given to two connections. -/
theorem nodup_names_run (code presenter : String) (limits : Limits) (now : Instant)
    (events : List Event) :
    ((Stage.start code presenter limits now).run events).outlet.lines.names.Nodup := by
  induction events using List.reverseRecOn with
  | nil => exact List.nodup_nil
  | append_singleton events ev ih =>
    rw [Stage.run_snoc, names_step]
    cases ev with
    | connect capacity =>
      -- The new name comes behind all that were given away before.
      refine List.nodup_append.mpr ⟨ih, List.nodup_singleton _, ?_⟩
      intro id known other isNew same
      rw [← same, List.mem_singleton] at isNew
      exact Lines.unused_not_mem _ (isNew ▸ known)
    | _ => rwa [List.append_nil]

/-- **The two directions of a session are independent**, in every run in which no connection is
attached for both roles. For each role the run comes to the same as the part of it that
concerns the role: its slot, its queue, the caches that are replayed to it and the channels of
its connections are the same, and all that concerns the role is answered in the same way. So
its connections are shown nothing but what was sent to the role. And two neighbouring events
of different directions may change places: the stage that they lead to is the same, and
each is answered as before. -/
theorem directions_independent (code presenter : String) (limits : Limits) (now : Instant)
    (events : List Event) (apart : Apart (attachedAs events)) {st : Stage}
    (begins : st = .start code presenter limits now) :
    (∀ role,
      SameFor (attachedAs events) role (st.run events) (st.run (toward role events)) ∧
      ((st.history events).filter (·.event.concerns (attachedAs events) role)).map Moment.outcome
        = (st.history (toward role events)).map Moment.outcome ∧
      ∀ id ∈ attachedAs events role, ∀ e ∈ ((st.run events).channel id).envelopes,
        e ∈ relayedTo role events) ∧
    ∀ before a b after role, events = before ++ a :: b :: after →
      a.direction? (attachedAs events) = some role →
      b.direction? (attachedAs events) = some role.peer →
      ((st.run before).step a).step b = ((st.run before).step b).step a ∧
      Moment.outcome ⟨(st.run before).step b, a⟩ = Moment.outcome ⟨st.run before, a⟩ ∧
      Moment.outcome ⟨(st.run before).step a, b⟩ = Moment.outcome ⟨st.run before, b⟩ := by
  have seats : st.Seats (attachedAs events) := by
    intro role id held
    subst begins
    cases role <;> cases held
  have admits : ∀ ev ∈ events, ev.Admits (attachedAs events) := fun ev mem => admits_of_mem mem
  refine ⟨?_, ?_⟩
  · intro role
    have self : SameFor (attachedAs events) role st st := ⟨rfl, rfl, rfl, fun _ _ => rfl⟩
    obtain ⟨runs, answers⟩ := sameFor_run apart seats seats self events admits
    refine ⟨runs, answers, ?_⟩
    intro id own e shown
    -- In the run that is left for the role, nothing is relayed but to the role.
    have alone : (st.run events).channel id = (st.run (toward role events)).channel id :=
      runs.channels id own
    rw [alone, begins] at shown
    obtain ⟨destination, relayed⟩ := relayed_of_mem_envelopes code presenter limits now shown
    obtain ⟨inRun, concerned⟩ := List.mem_filter.mp (mem_relayedTo.mp relayed)
    obtain rfl : destination = role := Option.some.inj (direction_of_concerns concerned rfl)
    exact mem_relayedTo.mpr inRun
  · intro before a b after role split here there
    have inside : ∀ ev ∈ before, ev ∈ events := by
      intro ev mem
      rw [split]
      exact List.mem_append_left _ mem
    have distinct : (st.run before).outlet.lines.names.Nodup := by
      rw [begins]
      exact nodup_names_run ..
    exact step_comm apart (seats_run seats before fun ev mem => admits ev (inside ev mem)) distinct
      (admits a (by simp [split])) (admits b (by simp [split])) here there

/-- The presenter writes before the viewer is there, and later comes back on a new connection.
Then each of the two writes to the other, and the viewer reads and leaves. -/
def meeting : List Event :=
  [.connect 2, .connect 2, .connect 2, .attach .presenter ⟨0⟩,
    .relay .viewer ⟨.offer, .bool true, "video"⟩, .attach .viewer ⟨1⟩,
    .relay .presenter ⟨.answer, .bool false, "video"⟩, .attach .presenter ⟨2⟩,
    .relay .viewer ⟨.candidate, .null, "audio"⟩, .relay .presenter ⟨.candidate, .null, "video"⟩,
    .take ⟨1⟩ 2, .detach .viewer ⟨1⟩]

/-- Both sides send, join and leave, and each direction goes its own way. -/
theorem directions_independent_meeting :
    Apart (attachedAs meeting) ∧
    let st := Stage.start "room" "host" ⟨1, 1⟩ 0
    (∀ role,
      SameFor (attachedAs meeting) role (st.run meeting) (st.run (toward role meeting)) ∧
      ((st.history meeting).filter (·.event.concerns (attachedAs meeting) role)).map Moment.outcome
        = (st.history (toward role meeting)).map Moment.outcome ∧
      ∀ id ∈ attachedAs meeting role, ∀ e ∈ ((st.run meeting).channel id).envelopes,
        e ∈ relayedTo role meeting) ∧
    ∀ before a b after role, meeting = before ++ a :: b :: after →
      a.direction? (attachedAs meeting) = some role →
      b.direction? (attachedAs meeting) = some role.peer →
      ((st.run before).step a).step b = ((st.run before).step b).step a ∧
      Moment.outcome ⟨(st.run before).step b, a⟩ = Moment.outcome ⟨st.run before, a⟩ ∧
      Moment.outcome ⟨(st.run before).step a, b⟩ = Moment.outcome ⟨st.run before, b⟩ := by
  have apart : Apart (attachedAs meeting) := by
    intro role
    cases role <;> decide
  exact ⟨apart, directions_independent "room" "host" ⟨1, 1⟩ 0 meeting apart rfl⟩

end

end Rendezvous.Session
