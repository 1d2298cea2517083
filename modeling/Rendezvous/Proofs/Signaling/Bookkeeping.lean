import Rendezvous.Proofs.Signaling.Balance

/-!
# The tally accounts for everything

A run of the world is operations on the relay and steps of its calls, and a call asks for
operations itself. `World.request?` is the operation with which an event comes to the relay,
and `World.total` sums up over a run what each of them counts for, on the relay as it was then.

Calls move one thing more. Each is on the gauge of its role from the moment it has joined until
it stops relaying, so that the gauges are numbers of calls (`Call.books_read`). With the balance
that operations keep, this accounts for every number of the tally (`books_balance`).
-/

namespace Rendezvous

/-- What one connection is told is not counted. -/
theorem Relay.connections_operate (r : Relay) (op : Operation) :
    (r.operate op).2.outlet.tally.connections = r.outlet.tally.connections := by
  have within : ∀ (code : String) (ev : Session.Event),
      (r.perform (.within code ev)).outlet.tally.connections = r.outlet.tally.connections := by
    intro code ev
    cases live : r.find? code with
    | none => rw [perform_of_gone live]
    | some s =>
      rw [perform_of_live live]
      show (Session.Stage.step _ ev).outlet.tally.connections = _
      rw [Session.tally_step]
      exact (Tally.marked_markAll ..).connections
  rw [operate_deed]
  cases op with
  | create presenter =>
    show (r.create presenter).2.outlet.tally.connections = _
    unfold create
    split <;> rfl
  | remove code =>
    show (r.remove code).2.outlet.tally.connections = _
    unfold remove
    split
    next => rfl
    next s live =>
      show (s.dismiss r.outlet endedReason).2.tally.connections = _
      exact congrArg Tally.connections (Outlet.tally_closeAll ..)
  | evict maxIdle =>
    show ((r.rooms.filter (r.isIdle maxIdle)).foldl expire r.outlet).tally.connections = _
    rw [tally_expireAll]
  | claim | clear | join | leave | send => exact within ..
  | check | look | count | find | take | drop | wait => rfl

namespace Signaling

namespace Call

/-- The call has joined as the role, and what it reads is relayed. -/
def relaysAs (role : Role) (c : Call) : Bool :=
  match c.phase with
  | .relaying _ r => r == role
  | _ => false

/-- What the call adds to the gauge of the role. -/
def share (role : Role) (c : Call) : Nat := if c.relaysAs role then 1 else 0

/-- A call moves, and the books with it: the rooms and the tally are those that its request
leads to, but for the gauges, which follow the calls that relay. -/
structure Books (c : Call) (r : Relay) (asked? : Option Operation) (c' : Call) (r' : Relay) :
    Prop where
  rooms : r'.rooms = (asked?.elim r fun op => (r.operate op).2).rooms
  tally : ∃ connections,
    r'.outlet.tally =
      { (asked?.elim r fun op => (r.operate op).2).outlet.tally with connections } ∧
    ∀ role, connections.get role + c.share role =
      r.outlet.tally.connections.get role + c'.share role

variable {r r' : Relay} {id : ConnId} {asked? : Option Operation}

/-- A call that relays neither before nor afterwards leaves the gauges alone. -/
theorem Books.of_same {c c' : Call}
    (rooms : r'.rooms = (asked?.elim r fun op => (r.operate op).2).rooms)
    (tally : r'.outlet.tally = (asked?.elim r fun op => (r.operate op).2).outlet.tally)
    (same : ∀ role, c'.relaysAs role = c.relaysAs role) : c.Books r asked? c' r' := by
  refine ⟨rooms, _, tally, fun role => ?_⟩
  rw [share, share, same]
  cases asked? with
  | none => rfl
  | some op => rw [Option.elim_some, Relay.connections_operate]

/-- A call that is turned away keeps its books, whatever it had asked for before. -/
theorem books_reject (id : ConnId) (fault : Fault)
    (after : asked?.elim r (fun op => (r.operate op).2) = r') :
    Books ⟨id, .awaiting⟩ r asked? (reject ⟨id, .awaiting⟩ r' fault).1
      (reject ⟨id, .awaiting⟩ r' fault).2 := by
  refine .of_same ?_ ?_ fun _ => rfl
  · rw [after]
    rfl
  · rw [after]
    exact (Outlet.tally_push ..).trans (Outlet.tally_push ..)

theorem books_stop (code : String) (role : Role)
    (after : asked?.elim r (fun op => (r.operate op).2) = r) :
    Books ⟨id, .relaying code role⟩ r asked? (stop ⟨id, .relaying code role⟩ r code role).1
      (stop ⟨id, .relaying code role⟩ r code role).2 := by
  refine ⟨by rw [after]; rfl, _, by rw [after]; rfl, fun other => ?_⟩
  show (r.outlet.tally.connections.modify role (· - 1)).get other +
    ((if role == other then 1 else 0 : Nat) : Int) = r.outlet.tally.connections.get other + 0
  cases role <;> cases other <;> simp [ByRole.modify, ByRole.set, ByRole.get]

/-- Reading moves the books. -/
theorem books_read (c : Call) (r : Relay) (next : Option Inbound) :
    c.Books r (c.asks? next) (c.read r next).1 (c.read r next).2 := by
  obtain ⟨id, phase⟩ := c
  cases phase with
  | awaiting =>
    rcases next with _ | ⟨text | fault⟩
    · exact .of_same rfl rfl fun _ => rfl
    · unfold asks? read
      dsimp only [readFirst, opening?]
      cases Subscription.ofText text with
      | error fault => exact books_reject id fault rfl
      | ok s =>
        show Books _ r (some (.join s.code s.role id)) (subscribe ⟨id, .awaiting⟩ r s).1
          (subscribe ⟨id, .awaiting⟩ r s).2
        unfold subscribe
        cases joined : r.join s.code s.role id with
        | mk live r' =>
          have after : (r.operate (.join s.code s.role id)).2 = r' := congrArg Prod.snd joined
          cases live with
          | false => exact books_reject id _ after
          | true =>
            refine ⟨by rw [Option.elim_some, after]; rfl, _, by rw [Option.elim_some, after]; rfl,
              fun other => ?_⟩
            -- The join itself does not count a connection. The call does, once it has been let
            -- in.
            have kept := r.connections_operate (.join s.code s.role id)
            rw [after] at kept
            show (r'.outlet.tally.connections.modify s.role (· + 1)).get other + 0 =
              r.outlet.tally.connections.get other +
                ((if s.role == other then 1 else 0 : Nat) : Int)
            rw [kept]
            cases s.role <;> cases other <;> simp [ByRole.modify, ByRole.set, ByRole.get]
    · exact .of_same rfl rfl fun _ => rfl
  | relaying code role =>
    unfold asks?
    dsimp only
    cases isMessage : envelope? next with
    | none =>
      rw [read_of_none rfl (Or.inl isMessage)]
      exact books_stop code role rfl
    | some e =>
      cases live : r.find? code with
      | none =>
        rw [read_of_none rfl (Or.inr live)]
        exact books_stop code role (congrArg Prod.snd (Relay.send_of_gone live _ _))
      | some s =>
        rw [read_of_envelope rfl live isMessage]
        exact .of_same rfl rfl fun _ => rfl
  | leaving code role | closing | done => exact .of_same rfl rfl fun _ => rfl

theorem books_finish (c : Call) (r : Relay) :
    c.Books r c.parts? (c.finish r).1 (c.finish r).2 := by
  obtain ⟨id, phase⟩ := c
  cases phase with
  | closing => exact .of_same rfl (Outlet.tally_push ..) fun _ => rfl
  | awaiting | relaying code role | leaving code role | done => exact .of_same rfl rfl fun _ => rfl

end Call

namespace World

/-! ## Totals -/

/-- The operation with which an event comes to the relay. -/
def request? (w : World) : Event → Option Operation
  | .create presenter => some (.create presenter)
  | .remove code => some (.remove code)
  | .evict maxIdle => some (.evict maxIdle)
  | .claim code user => some (.claim code user)
  | .clear code => some (.clear code)
  | .join code role id => some (.join code role id)
  | .leave code role id => some (.leave code role id)
  | .send code destination e => some (.send code destination e)
  | .take id count => some (.take id count)
  | .drop id => some (.drop id)
  | .wait milliseconds => some (.wait milliseconds)
  | .read i next => w.asked? i (.read i next)
  | .finish i => w.asked? i (.finish i)
  | .connect _ | .serve _ => none

/-- What an event counts for. -/
def counts (count : Relay → Operation → Nat) (w : World) (ev : Event) : Nat :=
  (w.request? ev).elim 0 (count w.relay)

/-- What the events of a run count for together. -/
def total (count : Relay → Operation → Nat) : World → List Event → Nat
  | _, [] => 0
  | w, ev :: rest => w.counts count ev + total count (w.step ev) rest

/-- The total of a run goes up by what the last event counts. -/
theorem total_snoc (count : Relay → Operation → Nat) (w : World) (events : List Event)
    (ev : Event) :
    total count w (events ++ [ev]) = total count w events + (w.run events).counts count ev := by
  induction events generalizing w with
  | nil => exact Nat.add_comm ..
  | cons first rest ih =>
    rw [List.cons_append, total, total, ih, Nat.add_assoc]
    rfl

/-- What the events of a run come to, as far as the tally has to account for it. -/
def account (w : World) (events : List Event) : Relay.Account where
  flushed role := w.total (Relay.flushed role) events
  lost role := w.total (Relay.lost role) events
  handed := w.total Relay.handed events
  tried := w.total Relay.tried events

/-- The account of one more event: that of its request, if it has one. -/
theorem account_snoc (w : World) (events : List Event) (ev : Event) :
    w.account (events ++ [ev]) =
      ((w.run events).request? ev).elim (w.account events)
        ((w.account events).add (w.run events).relay) := by
  simp only [account, total_snoc, counts]
  cases (w.run events).request? ev <;> rfl

/-! ## Books -/

/-- How many calls relay as the role. -/
def relaying (w : World) (role : Role) : Nat := w.calls.countP (·.relaysAs role)

/-- The tally accounts for the rooms, the calls, and what has happened so far. -/
structure Audited (w : World) (a : Relay.Account) : Prop where
  balanced : w.relay.Balanced a
  gauges : ∀ role, w.relay.outlet.tally.connections.get role = (w.relaying role : Int)

variable {w : World} {a : Relay.Account}

section
variable (keyed : Relay.Keyed w.relay.rooms) (room : ∀ s ∈ w.relay.rooms, 1 ≤ s.limits.pending)
  (h : w.Audited a) {ev : Event}
include keyed room h

/-- An event that only comes to the relay with its request keeps the books. -/
theorem audited_operate {op : Operation} (asks : w.request? ev = some op)
    (relay : (w.step ev).relay = (w.relay.operate op).2) (calls : (w.step ev).calls = w.calls) :
    (w.step ev).Audited ((w.request? ev).elim a (a.add w.relay)) := by
  constructor
  · rw [relay, asks]
    exact Relay.balanced_operate keyed room h.balanced op
  · intro role
    rw [relay, Relay.connections_operate, relaying, calls]
    exact h.gauges role

/-- A step of a call keeps the books. -/
theorem audited_call {i : Nat} {c c' : Call} (called : w.calls[i]? = some c)
    (calls : (w.step ev).calls = w.calls.set i c')
    (books : c.Books w.relay (w.request? ev) c' (w.step ev).relay) :
    (w.step ev).Audited ((w.request? ev).elim a (a.add w.relay)) := by
  obtain ⟨connections, tally, gauge⟩ := books.tally
  constructor
  · refine Relay.Balanced.congr ?_ books.rooms ⟨connections, tally⟩
    cases w.request? ev with
    | none => exact h.balanced
    | some op => exact Relay.balanced_operate keyed room h.balanced op
  · intro role
    have before := h.gauges role
    have moved := gauge role
    have number : (w.calls.set i c').countP (·.relaysAs role) + c.share role =
        w.calls.countP (·.relaysAs role) + c'.share role := countP_set_add called c' _
    rw [tally, relaying, calls]
    unfold relaying at before
    dsimp only
    omega

omit keyed room in
/-- A step of a call that there is not changes nothing. -/
theorem audited_uncalled {i : Nat} (isCall : ev.call? = some i) (uncalled : w.calls[i]? = none) :
    (w.step ev).Audited ((w.request? ev).elim a (a.add w.relay)) := by
  have still : w.step ev = w ∧ w.request? ev = none := by
    rcases own_cases isCall with ⟨next, rfl⟩ | rfl
    all_goals
      rw [step, onCall, request?, asked?, if_pos rfl, uncalled]
      exact ⟨rfl, rfl⟩
  rw [still.1, still.2]
  exact h

/-- **Every event keeps the books.** -/
theorem audited_step (ev : Event) :
    (w.step ev).Audited ((w.request? ev).elim a (a.add w.relay)) := by
  cases ev with
  | create | remove | evict | claim | clear | join | leave | send | take | drop | wait =>
    exact audited_operate keyed room h rfl rfl rfl
  | connect capacity => exact ⟨h.balanced.congr rfl ⟨_, rfl⟩, h.gauges⟩
  | serve id =>
    refine ⟨h.balanced, fun role => ?_⟩
    have longer : (w.step (.serve id)).relaying role = w.relaying role + 0 := List.countP_append
    rw [longer]
    exact h.gauges role
  | read i next =>
    cases called : w.calls[i]? with
    | none => exact audited_uncalled h rfl called
    | some c =>
      have calls : (w.step (.read i next)).calls = w.calls.set i (c.read w.relay next).1 :=
        congrArg World.calls (onCall_of_some called _)
      refine audited_call keyed room h called calls ?_
      rw [request?, asked?_read called, (call_read called next).2]
      exact c.books_read w.relay next
  | finish i =>
    cases called : w.calls[i]? with
    | none => exact audited_uncalled h rfl called
    | some c =>
      have calls : (w.step (.finish i)).calls = w.calls.set i (c.finish w.relay).1 :=
        congrArg World.calls (onCall_of_some called _)
      refine audited_call keyed room h called calls ?_
      rw [request?, asked?_finish called, (call_finish called).2]
      exact c.books_finish w.relay

end

/-- The books of a run are those of its events together. -/
theorem audited_run (limits : Limits) (candidates : Nat → String) (room : 1 ≤ limits.pending)
    (events : List Event) :
    ((start limits candidates).run events).Audited ((start limits candidates).account events) := by
  induction events using List.reverseRecOn with
  | nil =>
    refine ⟨⟨rfl, rfl, fun role => ?_, rfl⟩, fun role => ?_⟩
    · cases role <;> rfl
    · cases role <;> rfl
  | append_singleton events ev ih =>
    have within : ∀ s ∈ ((start limits candidates).run events).relay.rooms,
        1 ≤ s.limits.pending := by
      intro s mem
      have kept := (rooms_run (Session.lasting_kept limits) candidates events).rooms s mem
      rw [kept.within]
      exact room
    rw [account_snoc, run_snoc]
    exact audited_step (keyed_run limits candidates events) within ih ev

/-- **The tally accounts for everything.** After every run: each room that was made has ended,
was taken by a sweep, or is live, and the gauge of rooms is their number. Of what was queued for
a role, each envelope was pushed out of a full queue, was taken off the queue by a connection
that joined, waits in a live room, or waited in a room when it was taken away. Of the sends to
live connections and the envelopes handed over to connections that joined, each is counted as
relayed or as refused. And the gauge of a role is the number of calls that have joined as it and
still relay, so it is never below zero, and zero if there are none.

A queue holds one envelope at least here, since nothing is pushed out of one that holds none. -/
theorem books_balance (limits : Limits) (candidates : Nat → String) (room : 1 ≤ limits.pending)
    (events : List Event) {w₀ w : World} (fresh : w₀ = start limits candidates)
    (reached : w = w₀.run events) {t : Tally} (kept : t = w.relay.outlet.tally) :
    t.roomsCreated = t.roomsEnded + t.roomsEvicted + w.relay.count ∧
    t.roomsActive = w.relay.count ∧
    (∀ role, t.buffered.get role = t.dropped.get role + w₀.total (Relay.flushed role) events +
      w.relay.waiting role + w₀.total (Relay.lost role) events) ∧
    t.relayedTotal + t.refusedTotal =
      w₀.total Relay.tried events + w₀.total Relay.handed events ∧
    ∀ role, t.connections.get role = (w.relaying role : Int) ∧ 0 ≤ t.connections.get role ∧
      ((∀ c ∈ w.calls, c.relaysAs role = false) → t.connections.get role = 0) := by
  subst fresh reached kept
  obtain ⟨balanced, gauges⟩ := audited_run limits candidates room events
  refine ⟨balanced.rooms, balanced.active, balanced.queues, balanced.envelopes, fun role => ?_⟩
  rw [gauges role]
  refine ⟨rfl, Int.natCast_nonneg _, fun none => ?_⟩
  rw [relaying, List.countP_eq_zero.mpr fun c mem => ne_true_of_eq_false (none c mem)]
  rfl

/-- A room with a queue of one: two offers come for the viewer before it is there, and an answer
for the presenter that it never gets. One more offer finds the viewer's connection full. -/
def wasteful : List Event :=
  let offer (track : String) : Envelope := ⟨.offer, .null, track⟩
  let guest : Option Inbound := some (.text "\x7b\"roomCode\":\"room\",\"role\":\"viewer\"\x7d")
  [.create "host", .connect 2, .send "room" .viewer (offer "a"), .send "room" .viewer (offer "b"),
    .serve ⟨0⟩, .read 0 guest, .send "room" .viewer (offer "c"),
    .send "room" .presenter ⟨.answer, .null, "a"⟩, .remove "room"]

/-- One offer is dropped, one flushed and one refused, and the answer is lost with the room. -/
theorem books_balance_wasteful :
    let w := (start ⟨1, 2⟩ fun _ => "room").run wasteful
    let t := w.relay.outlet.tally
    t.roomsCreated = 1 ∧ t.roomsEnded = 1 ∧ t.buffered.get .viewer = 2 ∧ t.dropped.get .viewer = 1 ∧
    (start ⟨1, 2⟩ fun _ => "room").total (Relay.flushed .viewer) wasteful = 1 ∧
    t.buffered.get .presenter = 1 ∧
    (start ⟨1, 2⟩ fun _ => "room").total (Relay.lost .presenter) wasteful = 1 ∧
    t.relayedTotal = 2 ∧ t.refusedTotal = 1 ∧ t.connections.get .viewer = 1 ∧
    t.roomsCreated = t.roomsEnded + t.roomsEvicted + w.relay.count ∧
    t.relayedTotal + t.refusedTotal =
      (start ⟨1, 2⟩ fun _ => "room").total Relay.tried wasteful +
        (start ⟨1, 2⟩ fun _ => "room").total Relay.handed wasteful := by
  intro w t
  obtain ⟨rooms, -, -, envelopes, -⟩ :=
    books_balance ⟨1, 2⟩ (fun _ => "room") (by decide) wasteful rfl (show w = _ from rfl)
      (show t = _ from rfl)
  exact ⟨by decide +kernel, by decide +kernel, by decide +kernel, by decide +kernel,
    by decide +kernel, by decide +kernel, by decide +kernel, by decide +kernel, by decide +kernel,
    by decide +kernel, rooms, envelopes⟩

end World

end Signaling

end Rendezvous
