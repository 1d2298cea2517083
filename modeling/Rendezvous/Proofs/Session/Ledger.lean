import Rendezvous.Proofs.Session.Delivery
import Rendezvous.Proofs.Session.Memory

/-!
# The books of a room

Every message relayed to a role is sent, refused or buffered. For the buffered ones
a ledger is kept from what can be observed of a run alone: an entry is opened for
each of them, the oldest one that waits is marked as dropped when a message is
buffered while as many wait as may, and all that wait are marked as flushed when a
connection is attached for the role.

`ledger_balances` says that these books agree with the queue the session really
keeps and with the lists it really hands out: no message is lost, doubled or
overtaken on its way through the queue.
-/

namespace Rendezvous.Session

/-! ## The ledger -/

/-- What has become of a buffered message. -/
inductive Fate where
  | waiting
  | flushed
  | dropped
  deriving DecidableEq

/-- A buffered message and what has become of it. -/
structure Entry where
  message : Envelope
  fate : Fate

namespace Entry

/-- A message that has just been buffered. -/
def opened (e : Envelope) : Entry := ⟨e, .waiting⟩

/-- The entry once everything that waited was flushed. -/
def flush (entry : Entry) : Entry :=
  if entry.fate = .waiting then { entry with fate := .flushed } else entry

/-- The oldest message that waits is dropped. -/
def dropOldest : List Entry → List Entry
  | [] => []
  | entry :: rest =>
    if entry.fate = .waiting then { entry with fate := .dropped } :: rest
    else entry :: dropOldest rest

/-- The messages that were not dropped. -/
def kept (entries : List Entry) : List Envelope :=
  (entries.filter (·.fate ≠ .dropped)).map (·.message)

end Entry

namespace Moment

/-- The message for a role that was buffered. -/
def buffered? (m : Moment) (role : Role) : Option Envelope :=
  if m.delivery? = some .buffered then m.event.message? role else none

/-- What was flushed to a connection that was attached as a role. -/
def flush? (m : Moment) (role : Role) : Option (List Envelope) :=
  match m.event with
  | .attach r id => if r = role then some (m.attachment role id).flushed else none
  | _ => none

/-- As many messages wait for a role as may. -/
def isFull (m : Moment) (role : Role) : Prop :=
  (m.before.session.pending role).length = m.before.session.limits.pending

instance (m : Moment) (role : Role) : Decidable (m.isFull role) :=
  inferInstanceAs (Decidable (_ = _))

/-- What a moment adds to the ledger of a role. -/
def record (role : Role) (entries : List Entry) (m : Moment) : List Entry :=
  match m.buffered? role with
  | some e => (if m.isFull role then Entry.dropOldest entries else entries) ++ [Entry.opened e]
  | none => if (m.flush? role).isSome then entries.map Entry.flush else entries

end Moment

/-- The ledger of a role over a history. -/
def ledger (role : Role) (history : List Moment) : List Entry :=
  history.foldl (Moment.record role) []

/-- The messages for a role that were buffered, in order. -/
def buffered (role : Role) (history : List Moment) : List Envelope :=
  history.filterMap (·.buffered? role)

/-- What was flushed, attachment by attachment. -/
def flushes (role : Role) (history : List Moment) : List (List Envelope) :=
  history.filterMap (·.flush? role)

/-! ## The books agree with the queue -/

namespace Entry

/-- The entries tell that some messages were flushed and others wait: those that wait
are the last ones, and the ones before are settled. -/
structure Tells (entries : List Entry) (flushed waiting : List Envelope) : Prop where
  split : ∃ settled, entries = settled ++ waiting.map opened ∧
    (∀ entry ∈ settled, entry.fate ≠ .waiting) ∧ kept settled = flushed

theorem kept_append (xs ys : List Entry) : kept (xs ++ ys) = kept xs ++ kept ys := by
  rw [kept, List.filter_append, List.map_append, kept, kept]

/-- Entries that share a fate other than being dropped are all kept. -/
theorem kept_map {fate : Fate} (h : fate ≠ .dropped) (es : List Envelope) :
    kept (es.map (⟨·, fate⟩)) = es := by
  induction es with
  | nil => rfl
  | cons e rest ih =>
    rw [List.map_cons, kept, List.filter_cons_of_pos (by simpa using h), List.map_cons]
    exact congrArg (e :: ·) ih

/-- Dropping passes over what is settled and takes the first entry that waits. -/
theorem dropOldest_append {settled : List Entry} (h : ∀ entry ∈ settled, entry.fate ≠ .waiting)
    (rest : List Entry) : dropOldest (settled ++ rest) = settled ++ dropOldest rest := by
  induction settled with
  | nil => rfl
  | cons entry others ih =>
    rw [List.cons_append, dropOldest, if_neg (h entry List.mem_cons_self),
      ih fun x mem => h x (List.mem_cons_of_mem _ mem), List.cons_append]

/-- A flush leaves settled entries as they are. -/
theorem map_flush_of_settled {settled : List Entry}
    (h : ∀ entry ∈ settled, entry.fate ≠ .waiting) : settled.map flush = settled := by
  refine (List.map_congr_left fun entry mem => ?_).trans (List.map_id settled)
  exact if_neg (h entry mem)

theorem message_flush (entry : Entry) : entry.flush.message = entry.message := by
  unfold flush
  split <;> rfl

/-- Dropping changes what has become of a message, and no message. -/
theorem map_message_dropOldest (entries : List Entry) :
    (dropOldest entries).map (·.message) = entries.map (·.message) := by
  induction entries with
  | nil => rfl
  | cons entry rest ih =>
    unfold dropOldest
    split
    · rfl
    · rw [List.map_cons, ih, List.map_cons]

section
variable {entries : List Entry} {flushed waiting : List Envelope}

/-- In books that tell the truth, what was not dropped was flushed or waits, in order. -/
theorem kept_of_tells (h : Tells entries flushed waiting) : kept entries = flushed ++ waiting := by
  obtain ⟨settled, rfl, -, before⟩ := h.split
  have waits : kept (waiting.map opened) = waiting := kept_map Fate.noConfusion waiting
  rw [kept_append, waits, before]

/-- An entry that is opened stands for one more message at the end of the queue. -/
theorem tells_opened (h : Tells entries flushed waiting) (e : Envelope) :
    Tells (entries ++ [opened e]) flushed (waiting ++ [e]) := by
  obtain ⟨settled, rfl, isSettled, before⟩ := h.split
  refine ⟨settled, ?_, isSettled, before⟩
  rw [List.map_append, List.append_assoc]
  rfl

/-- The entry that is marked as dropped is that of the message at the head of the queue. -/
theorem tells_dropOldest (h : Tells entries flushed waiting) :
    Tells (dropOldest entries) flushed waiting.tail := by
  obtain ⟨settled, rfl, isSettled, before⟩ := h.split
  cases waiting with
  | nil =>
    refine ⟨settled, ?_, isSettled, before⟩
    exact dropOldest_append isSettled []
  | cons oldest rest =>
    -- The entry of the oldest message is the first one behind those that are settled.
    refine ⟨settled ++ [⟨oldest, .dropped⟩], ?_, ?_, ?_⟩
    · rw [dropOldest_append isSettled, List.append_assoc]
      rfl
    · intro entry mem
      rcases List.mem_append.mp mem with old | new
      · exact isSettled entry old
      · rw [List.mem_singleton.mp new]
        exact Fate.noConfusion
    · rw [kept_append, before]
      exact List.append_nil flushed

/-- After a flush every entry is settled and nothing waits. -/
theorem tells_flush (h : Tells entries flushed waiting) :
    Tells (entries.map flush) (flushed ++ waiting) [] := by
  obtain ⟨settled, rfl, isSettled, before⟩ := h.split
  have opening : (waiting.map opened).map flush = waiting.map fun e => ⟨e, .flushed⟩ :=
    List.map_map ..
  refine ⟨settled ++ waiting.map fun e => ⟨e, .flushed⟩, ?_, ?_, ?_⟩
  · rw [List.map_append, map_flush_of_settled isSettled, opening]
    exact (List.append_nil _).symm
  · intro entry mem
    rcases List.mem_append.mp mem with old | new
    · exact isSettled entry old
    · obtain ⟨e, -, rfl⟩ := List.mem_map.mp new
      exact Fate.noConfusion
  · rw [kept_append, before, kept_map Fate.noConfusion]

end

end Entry

namespace Moment

/-- A message is buffered for the role it is meant for, and only while nobody is there. -/
theorem buffered?_relay (st : Stage) (destination role : Role) (e : Envelope) :
    buffered? ⟨st, .relay destination e⟩ role =
      if destination = role ∧ (st.session.slot role).connection = none then some e else none := by
  unfold buffered?
  show (if _ then (if destination = role then some e else none) else none) = _
  by_cases mine : destination = role
  · subst mine
    rw [if_pos rfl]
    cases connected : (st.session.slot destination).connection with
    | none => rw [delivery?_of_none rfl connected, if_pos rfl, if_pos ⟨rfl, rfl⟩]
    | some id =>
      rw [delivery?_of_connection rfl connected, if_neg, if_neg (by simp)]
      split <;> simp
  · rw [if_neg mine, ite_self]
    exact (if_neg fun both => mine both.1).symm

theorem buffered?_of_no_message {st : Stage} {ev : Event} {role : Role}
    (h : ev.message? role = none) : buffered? ⟨st, ev⟩ role = none := by
  rw [buffered?, h, ite_self]

/-- **One moment keeps the books**: if they agree with the queue before, they agree
with the queue after. -/
theorem tells_record {st : Stage} {role : Role} {entries : List Entry} {flushed : List Envelope}
    (bounded : (st.session.pending role).length ≤ st.session.limits.pending)
    (h : Entry.Tells entries flushed (st.session.pending role)) (ev : Event) :
    Entry.Tells (record role entries ⟨st, ev⟩) (flushed ++ (flush? ⟨st, ev⟩ role).getD [])
      ((st.step ev).session.pending role) := by
  unfold record
  cases ev with
  | relay destination e =>
    show Entry.Tells _ (flushed ++ []) _
    rw [buffered?_relay, pending_relay, List.append_nil]
    by_cases queued : destination = role ∧ (st.session.slot role).connection = none
    · rw [if_pos queued, if_pos queued]
      show Entry.Tells ((if _ then _ else _) ++ _) _ (enqueue _ _ _)
      unfold enqueue
      -- The session asks whether the queue is full or fuller, the ledger whether it is
      -- just full. The bound says that these are one question.
      by_cases full : isFull ⟨st, .relay destination e⟩ role
      · have noRoom : st.session.limits.pending ≤ (st.session.pending role).length :=
          Nat.le_of_eq full.symm
        rw [if_pos full, if_pos noRoom]
        exact Entry.tells_opened (Entry.tells_dropOldest h) e
      · have room : ¬ st.session.limits.pending ≤ (st.session.pending role).length :=
          fun noRoom => full (Nat.le_antisymm bounded noRoom)
        rw [if_neg full, if_neg room]
        exact Entry.tells_opened h e
    · rw [if_neg queued, if_neg queued]
      exact h
  | attach r id =>
    rw [buffered?_of_no_message rfl, pending_attach]
    show Entry.Tells (if (if r = role then some _ else none : Option _).isSome then _ else _)
      (flushed ++ (if r = role then some _ else none : Option _).getD []) _
    split
    next => exact Entry.tells_flush h
    next =>
      show Entry.Tells entries (flushed ++ []) _
      rw [List.append_nil]
      exact h
  | _ =>
    rw [buffered?_of_no_message rfl, pending_of_other rfl rfl]
    show Entry.Tells entries (flushed ++ []) _
    rw [List.append_nil]
    exact h

end Moment

/-! ## What a relayed message comes to -/

namespace Moment

/-- A relayed message came to exactly one of three things. It was sent: pushed once, on
the connection of its destination. It was buffered: put behind all others that wait,
of which the oldest was lost if there were as many as may be. Or it was refused, and
is neither on a connection nor in a queue. -/
def Settled (m : Moment) (destination : Role) (e : Envelope) : Prop :=
  match (m.before.session.send m.before.outlet destination e m.before.now).1 with
  | .ok .sent =>
    ∃ id, (m.before.session.slot destination).connection = some id ∧
      (m.after.channel id).accepted = (m.before.channel id).accepted ++ [.envelope e] ∧
      (∀ other, other ≠ id → m.after.channel other = m.before.channel other) ∧
      ∀ role, m.after.session.pending role = m.before.session.pending role
  | .ok .buffered =>
    (m.before.session.slot destination).connection = none ∧
      (∀ id, m.after.channel id = m.before.channel id) ∧
      m.after.session.pending destination =
        (if m.isFull destination then (m.before.session.pending destination).tail
          else m.before.session.pending destination) ++ [e] ∧
      m.after.session.pending destination.peer = m.before.session.pending destination.peer
  | .error _ =>
    (∀ id, m.after.channel id = m.before.channel id) ∧
      ∀ role, m.after.session.pending role = m.before.session.pending role

/-- Why a connection was handed an envelope: it was relayed just then to the role the
connection speaks for, or the connection was attached as a role that the envelope
waited for or that the other side had last sent it to. -/
def Explains (m : Moment) (id : ConnId) (e : Envelope) : Prop :=
  (∃ role, m.event = .relay role e ∧ m.delivery? = some .sent ∧
    (m.before.session.slot role).connection = some id) ∨
  ∃ role, m.event = .attach role id ∧
    (e ∈ m.before.session.pending role ∨ e ∈ (m.before.session.side role.peer).cached)

/-- With nobody there a message is buffered. The bound on the queue makes the session's question,
whether it is full or fuller, that of the ledger. -/
theorem settled_of_none {st : Stage} {destination : Role}
    (h : (st.session.slot destination).connection = none)
    (bounded : (st.session.pending destination).length ≤ st.session.limits.pending)
    (e : Envelope) : Settled ⟨st, .relay destination e⟩ destination e := by
  have result : (st.session.send st.outlet destination e st.now).1 = .ok .buffered := by
    rw [send_of_none _ _ h]
  rw [Settled, result]
  refine ⟨h, fun id => ?_, ?_, ?_⟩
  · show (st.step _).channel id = _
    rw [channel_relay, h]
    exact if_neg (Option.some_ne_none id).symm
  · show (st.step _).session.pending destination = (if _ then _ else _) ++ [e]
    rw [pending_relay, if_pos ⟨rfl, h⟩, enqueue]
    by_cases full : isFull ⟨st, .relay destination e⟩ destination
    · rw [if_pos full, if_pos (Nat.le_of_eq full.symm)]
    · rw [if_neg full, if_neg fun noRoom => full (Nat.le_antisymm bounded noRoom)]
  · show (st.step _).session.pending destination.peer = _
    rw [pending_relay, if_neg fun both => Role.peer_ne destination both.1.symm]

/-- With somebody there a message is sent or refused, and no queue changes. -/
theorem settled_of_connection {st : Stage} {destination : Role} {id : ConnId}
    (h : (st.session.slot destination).connection = some id) (e : Envelope) :
    Settled ⟨st, .relay destination e⟩ destination e := by
  have kept : ∀ role, (st.step (.relay destination e)).session.pending role
      = st.session.pending role := by
    intro role
    rw [pending_relay, if_neg]
    rintro ⟨rfl, away⟩
    rw [away] at h
    cases h
  have elsewhere : ∀ other, other ≠ id →
      (st.step (.relay destination e)).channel other = st.channel other := by
    intro other differ
    rw [channel_relay, h, if_neg fun same => differ (Option.some.inj same).symm]
  have offered : (st.step (.relay destination e)).channel id
      = (st.channel id).offer (.envelope e) := by
    rw [channel_relay, if_pos h]
  -- The session has relayed it; whether it is sent or refused is up to the channel.
  cases refused : (st.channel id).refusal? with
  | none =>
    have result : (st.session.send st.outlet destination e st.now).1 = .ok .sent := by
      rw [send_of_connection _ _ h, Outlet.deliver_of_none refused]
      rfl
    rw [Settled, result]
    refine ⟨id, h, ?_, elsewhere, kept⟩
    show ((st.step _).channel id).accepted = _
    rw [offered, Channel.offer_of_free ((Channel.refusal?_eq_none_iff _).mp refused)]
  | some refusal =>
    have result : (st.session.send st.outlet destination e st.now).1 = .error refusal := by
      rw [send_of_connection _ _ h, Outlet.deliver_of_refusal refused]
      rfl
    rw [Settled, result]
    refine ⟨fun other => ?_, kept⟩
    by_cases same : other = id
    · subst same
      show (st.step _).channel other = _
      rw [offered, Channel.offer, Channel.push_of_refusal refused]
      rfl
    · exact elsewhere other same

/-- Whatever is pushed comes from one of these two events. -/
theorem explains_of_mem_pushes {m : Moment} {id : ConnId} {e : Envelope} (h : e ∈ m.pushes id) :
    m.Explains id e := by
  unfold pushes at h
  split at h
  next destination sent isRelay =>
    split at h
    next live =>
      rw [List.mem_singleton.mp h]
      exact Or.inl ⟨destination, isRelay, live.1, live.2⟩
    next => exact absurd h List.not_mem_nil
  next role other isAttach =>
    split at h
    next same =>
      refine Or.inr ⟨role, same ▸ isAttach, ?_⟩
      -- Of the backlog perhaps only the beginning fitted. All of it waited or was cached.
      rcases List.mem_append.mp (List.mem_of_mem_take h) with flushed | replayed
      · exact Or.inl flushed
      · exact Or.inr (List.mem_filter.mp replayed).1
    next => exact absurd h List.not_mem_nil
  next => exact absurd h List.not_mem_nil

end Moment

/-! ## The balance of a run -/

/-- The books of a role over a run. -/
structure Balances (st : Stage) (events : List Event) (role : Role) : Prop where
  /-- Every message for the role was sent, buffered or refused. -/
  settled : ∀ m ∈ st.history events, ∀ e, m.event = .relay role e → m.Settled role e
  /-- There is an entry for each message that was buffered, in order. -/
  opened : (ledger role (st.history events)).map (·.message) = buffered role (st.history events)
  /-- What was not dropped was flushed or still waits, in order. -/
  queue : Entry.kept (ledger role (st.history events))
    = (flushes role (st.history events)).flatten ++ (st.run events).session.pending role
  /-- A connection has been handed what the moments of the run pushed, in order. -/
  pushed : ∀ id, ((st.run events).channel id).envelopes
    = (st.history events).flatMap (·.pushes id)
  /-- And for each of these envelopes there is a reason. -/
  explained : ∀ m ∈ st.history events, ∀ id, ∀ e ∈ m.pushes id, m.Explains id e

theorem ledger_snoc (role : Role) (history : List Moment) (m : Moment) :
    ledger role (history ++ [m]) = m.record role (ledger role history) := List.foldl_append ..

theorem flatten_flushes_snoc (role : Role) (history : List Moment) (m : Moment) :
    (flushes role (history ++ [m])).flatten
      = (flushes role history).flatten ++ (m.flush? role).getD [] := by
  have last : flushes role [m] = (m.flush? role).toList := rfl
  rw [flushes, List.filterMap_append, List.flatten_append, ← flushes, ← flushes, last]
  cases m.flush? role with
  | some es => rw [Option.toList_some, List.flatten_singleton, Option.getD_some]
  | none => rfl

/-- A moment opens one entry for the message that it buffers, and closes none. -/
theorem map_message_record (m : Moment) (role : Role) (entries : List Entry) :
    (m.record role entries).map (·.message)
      = entries.map (·.message) ++ (m.buffered? role).toList := by
  unfold Moment.record
  split
  next e isBuffered =>
    rw [isBuffered, List.map_append]
    split
    · rw [Entry.map_message_dropOldest]
      rfl
    · rfl
  next notBuffered =>
    rw [notBuffered, Option.toList_none, List.append_nil]
    split
    · rw [List.map_map]
      exact List.map_congr_left fun entry _ => Entry.message_flush entry
    · rfl

/-- The ledger lists the buffered messages, each one once and in order. -/
theorem map_message_ledger (role : Role) (history : List Moment) :
    (ledger role history).map (·.message) = buffered role history := by
  induction history using List.reverseRecOn with
  | nil => rfl
  | append_singleton history m ih =>
    rw [ledger_snoc, map_message_record, ih, buffered, buffered, List.filterMap_append]
    rfl

section
variable (code presenter : String) {limits : Limits} (now : Instant)

/-- No more messages wait than may. -/
theorem pending_le (h : 1 ≤ limits.pending) (events : List Event) (role : Role) :
    (((Stage.start code presenter limits now).run events).session.pending role).length
      ≤ ((Stage.start code presenter limits now).run events).session.limits.pending := by
  rw [limits_run]
  have bounded := (follows_run code presenter limits now events role).bounded
  rwa [Nat.max_eq_right h] at bounded

/-- After every run the ledger tells what was flushed and what waits. -/
theorem tells_run (h : 1 ≤ limits.pending) (events : List Event) (role : Role) :
    Entry.Tells (ledger role ((Stage.start code presenter limits now).history events))
      (flushes role ((Stage.start code presenter limits now).history events)).flatten
      (((Stage.start code presenter limits now).run events).session.pending role) := by
  induction events using List.reverseRecOn with
  | nil => cases role <;> exact ⟨[], rfl, fun _ mem => absurd mem List.not_mem_nil, rfl⟩
  | append_singleton events ev ih =>
    have books := Moment.tells_record (pending_le code presenter now h events role) ih ev
    rw [Stage.history_snoc, Stage.run_snoc, ledger_snoc, flatten_flushes_snoc]
    exact books

/-- **The books of every run balance.** -/
theorem ledger_balances (h : 1 ≤ limits.pending) (events : List Event) (role : Role) :
    Balances (Stage.start code presenter limits now) events role where
  settled := by
    rintro ⟨st, ev⟩ mem e isRelay
    obtain ⟨earlier, -, reached⟩ := Stage.before_of_mem_history mem
    have bounded : (st.session.pending role).length ≤ st.session.limits.pending := by
      rw [show st = _ from reached]
      exact pending_le code presenter now h earlier role
    obtain rfl : ev = .relay role e := isRelay
    cases connected : (st.session.slot role).connection with
    | none => exact Moment.settled_of_none connected bounded e
    | some id => exact Moment.settled_of_connection connected e
  opened := map_message_ledger ..
  queue := Entry.kept_of_tells (tells_run code presenter now h events role)
  pushed := fun id => (envelopes_run Outlet.sound_empty events id).trans (List.nil_append _)
  explained := fun _ _ _ _ mem => Moment.explains_of_mem_pushes mem

end

/-- A queue for two gets three candidates, a connection for two frames takes both that
are left and refuses the next one, and another one waits once it has left. -/
def crowded : List Event :=
  let candidate (track : String) : Event := .relay .viewer ⟨.candidate, .null, track⟩
  [candidate "a", candidate "b", candidate "c", .connect 2, .attach .viewer ⟨0⟩, candidate "d",
    .take ⟨0⟩ 1, candidate "e", .detach .viewer ⟨0⟩, candidate "f"]

/-- One message is dropped, two are flushed, and the last one waits. -/
theorem ledger_balances_crowded :
    1 ≤ (Limits.mk 2 1).pending ∧
    (ledger .viewer ((Stage.start "room" "host" ⟨2, 1⟩ 0).history crowded)).map
      (fun entry => (entry.message.track, entry.fate))
      = [("a", .dropped), ("b", .flushed), ("c", .flushed), ("f", .waiting)] ∧
    Balances (Stage.start "room" "host" ⟨2, 1⟩ 0) crowded .viewer :=
  ⟨by decide, rfl, ledger_balances "room" "host" 0 (by decide) crowded .viewer⟩

end Rendezvous.Session
