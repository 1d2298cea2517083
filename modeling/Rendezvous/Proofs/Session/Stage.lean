import Mathlib.Data.List.Induction
import Rendezvous.Proofs.Outlet

/-!
# Runs of a session

Whatever happens to one room is a list of events: messages are relayed, connections
come and go, and meanwhile the readers at the other ends of the connections take
frames or go away, at any moment and in any order. A `Stage` is all that such a run
acts on, and `Stage.run` is the state that a list of events leads to.

What a run brought about step by step is its `history`: each event with the stage it
happened on. Everything that can be observed of a step is a function of such a
moment, so a theorem about a run needs no record beside the run itself.
-/

namespace Rendezvous.Session

/-- What can happen to a session and to the connections it speaks to. The first six are
its operations. Then a connection of so many places is opened, its reader takes frames
off the queue or goes away, and time passes. -/
inductive Event where
  | relay (destination : Role) (e : Envelope)
  | attach (role : Role) (id : ConnId)
  | detach (role : Role) (id : ConnId)
  | claim (user : String)
  | clear
  | close (reason : String)
  | connect (capacity : Nat)
  | take (id : ConnId) (count : Nat)
  | drop (id : ConnId)
  | wait (milliseconds : Nat)

/-- The message for a role that an event relays. -/
def Event.message? (role : Role) : Event → Option Envelope
  | .relay destination e => if destination = role then some e else none
  | _ => none

/-- The connection that an event puts into the slot of a role. -/
def Event.attached? (role : Role) : Event → Option ConnId
  | .attach r id => if r = role then some id else none
  | _ => none

/-- The messages for a role that a run relays, in order. -/
def relayedTo (role : Role) (events : List Event) : List Envelope :=
  events.filterMap (·.message? role)

theorem relayedTo_append (role : Role) (before after : List Event) :
    relayedTo role (before ++ after) = relayedTo role before ++ relayedTo role after :=
  List.filterMap_append ..

theorem relayedTo_cons (role : Role) (ev : Event) (rest : List Event) :
    relayedTo role (ev :: rest) = (ev.message? role).toList ++ relayedTo role rest :=
  relayedTo_append role [ev] rest

theorem relayedTo_snoc (role : Role) (events : List Event) (ev : Event) :
    relayedTo role (events ++ [ev]) = relayedTo role events ++ (ev.message? role).toList := by
  rw [relayedTo_append]
  rfl

/-- A session, the connections, and the clock. -/
structure Stage where
  session : Session
  outlet : Outlet
  now : Instant

namespace Stage

/-- A new room, before anything was connected. -/
def start (code presenter : String) (limits : Limits) (now : Instant) : Stage :=
  ⟨.start code presenter limits now, .empty, now⟩

/-- The channel of a connection. -/
def channel (st : Stage) (id : ConnId) : Channel := st.outlet.channel id

/-- The stage with other connections. -/
def withLines (st : Stage) (lines : Lines) : Stage :=
  { st with outlet := { st.outlet with lines } }

/-- What an event makes of a stage. -/
def step (st : Stage) : Event → Stage
  | .relay destination e =>
    let (_, session, outlet) := st.session.send st.outlet destination e st.now
    { st with session, outlet }
  | .attach role id =>
    let (_, session, outlet) := st.session.join st.outlet role id st.now
    { st with session, outlet }
  | .detach role id => { st with session := st.session.detach role id st.now }
  | .claim user => { st with session := st.session.claimViewer user st.now }
  | .clear => { st with session := st.session.clearViewer st.now }
  | .close reason =>
    let (session, outlet) := st.session.dismiss st.outlet reason
    { st with session, outlet }
  | .connect capacity =>
    st.withLines (st.outlet.lines.set st.outlet.lines.unused (.fresh capacity))
  | .take id count => st.withLines (st.outlet.lines.take id count).2
  | .drop id => st.withLines (st.outlet.lines.drop id)
  | .wait milliseconds => { st with now := st.now + milliseconds }

/-- What a list of events makes of a stage. -/
def run (st : Stage) (events : List Event) : Stage := events.foldl step st

@[simp] theorem run_nil (st : Stage) : st.run [] = st := rfl

theorem run_cons (st : Stage) (ev : Event) (rest : List Event) :
    st.run (ev :: rest) = (st.step ev).run rest := rfl

theorem run_append (st : Stage) (before after : List Event) :
    st.run (before ++ after) = (st.run before).run after := List.foldl_append ..

theorem run_snoc (st : Stage) (events : List Event) (ev : Event) :
    st.run (events ++ [ev]) = (st.run events).step ev := run_append ..

end Stage

/-! ## Histories -/

/-- An event and the stage it happened on. -/
structure Moment where
  before : Stage
  event : Event

/-- The stage that the event led to. -/
def Moment.after (m : Moment) : Stage := m.before.step m.event

/-- The moments of a run. -/
def Stage.history : Stage → List Event → List Moment
  | _, [] => []
  | st, ev :: rest => ⟨st, ev⟩ :: history (st.step ev) rest

/-- The moments of a run are those of its first part and then those of the second, which begins
where the first has come to. -/
theorem Stage.history_append (st : Stage) (before after : List Event) :
    st.history (before ++ after) = st.history before ++ (st.run before).history after := by
  induction before generalizing st with
  | nil => rfl
  | cons ev rest ih =>
    show ⟨st, ev⟩ :: (st.step ev).history (rest ++ after) = _
    rw [ih]
    rfl

theorem Stage.history_snoc (st : Stage) (events : List Event) (ev : Event) :
    st.history (events ++ [ev]) = st.history events ++ [⟨st.run events, ev⟩] :=
  st.history_append events [ev]

/-- Each moment of a run happened on the stage that the events before it led to. -/
theorem Stage.before_of_mem_history {st : Stage} {events : List Event} {m : Moment}
    (h : m ∈ st.history events) : ∃ earlier, earlier <+: events ∧ m.before = st.run earlier := by
  induction events using List.reverseRecOn with
  | nil => exact absurd h List.not_mem_nil
  | append_singleton events ev ih =>
    rw [history_snoc, List.mem_append, List.mem_singleton] at h
    rcases h with inside | rfl
    · obtain ⟨earlier, isPrefix, same⟩ := ih inside
      exact ⟨earlier, isPrefix.trans (List.prefix_append ..), same⟩
    · exact ⟨events, List.prefix_append .., rfl⟩

end Rendezvous.Session
