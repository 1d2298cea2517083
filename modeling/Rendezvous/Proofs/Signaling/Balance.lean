import Mathlib.Data.List.Basic
import Rendezvous.Proofs.Session.Counting
import Rendezvous.Proofs.Signaling.Capacity
import Rendezvous.Proofs.Signaling.Isolation
import Rendezvous.Proofs.Signaling.Procedure

/-!
# The books of the relay

The tally is kept in many places, and it has to agree with what has happened, which
`Relay.Account` sums up. `Relay.Balanced` says how: rooms that were made have ended, were taken
by a sweep, or are live; and what was queued for a role was pushed out of a full queue, handed
over to a connection, lost with its room, or waits. Each operation keeps the balance, with its
own part of the account added (`balanced_operate`).
-/

namespace Rendezvous

/-! ## Sums -/

section
variable {α : Type}

/-- With one item of a list in the place of another, so are their counts in the number of items
with a property. -/
theorem countP_set_add {l : List α} {i : Nat} {x : α} (here : l[i]? = some x) (y : α)
    (p : α → Bool) :
    (l.set i y).countP p + (if p x then 1 else 0) = l.countP p + (if p y then 1 else 0) := by
  obtain ⟨inside, same⟩ := List.getElem?_eq_some_iff.mp here
  rw [List.countP_set inside, same]
  split
  next holds =>
    have some : 0 < l.countP p :=
      List.countP_pos_iff.mpr ⟨x, List.mem_of_getElem? here, holds⟩
    omega
  next => omega

/-- A sum over a list is that over some of its items and that over the others. -/
theorem sum_filter_add (f : α → Nat) (p : α → Bool) (l : List α) :
    ((l.filter p).map f).sum + ((l.filter fun x => !p x).map f).sum = (l.map f).sum := by
  rw [← List.sum_append, ← List.map_append]
  exact ((List.filter_append_perm p l).map f).sum_nat

end

namespace Relay

variable {r : Relay} {code : String}

/-- A sum over the rooms changes with a room as the room does. -/
theorem sum_put (keyed : Keyed r.rooms) {s s' : Session} (live : r.find? code = some s)
    (same : s'.code = s.code) (f : Session → Nat) :
    ((r.put s').rooms.map f).sum + f s = (r.rooms.map f).sum + f s' := by
  obtain ⟨isCode, before, after, rooms, others⟩ := List.find?_eq_some_iff_append.mp live
  have kept : ∀ x ∈ before ++ after, (if x.code == s'.code then s' else x) = x := by
    intro x mem
    -- The rooms before `s` were passed over, and no room behind it has its code again.
    have differ : x.code ≠ s.code := by
      rw [Keyed, rooms, List.map_append, List.map_cons] at keyed
      have apart := (List.nodup_middle.mp keyed).notMem
      rw [← List.map_append] at apart
      exact fun shared => apart (List.mem_map.mpr ⟨x, mem, shared⟩)
    rw [same, if_neg fun shared => differ (beq_iff_eq.mp shared)]
  have unchanged : ∀ part ⊆ before ++ after,
      part.map (fun x => if x.code == s'.code then s' else x) = part := by
    intro part sub
    rw [List.map_congr_left fun x mem => kept x (sub mem), List.map_id']
  have result : (r.put s').rooms = before ++ s' :: after := by
    show r.rooms.map (fun x => if x.code == s'.code then s' else x) = _
    rw [rooms, List.map_append, List.map_cons, unchanged before (List.subset_append_left ..),
      unchanged after (List.subset_append_right ..), if_pos (beq_iff_eq.mpr same.symm)]
  rw [result, rooms]
  simp only [List.map_append, List.map_cons, List.sum_append, List.sum_cons]
  omega

/-! ## What is counted -/

/-- What waits for a role in all live rooms. -/
def waiting (r : Relay) (role : Role) : Nat := (r.rooms.map fun s => (s.pending role).length).sum

/-- The rooms that an operation takes away. -/
def taken (r : Relay) : Operation → List Session
  | .remove code => (r.find? code).toList
  | .evict maxIdle => r.rooms.filter (r.isIdle maxIdle)
  | _ => []

/-- How much that waited for a role is lost with the rooms that an operation takes away. -/
def lost (role : Role) (r : Relay) (op : Operation) : Nat :=
  ((r.taken op).map fun s => (s.pending role).length).sum

/-- What came of letting a connection into a live room. -/
def joined? (r : Relay) (code : String) (role : Role) (id : ConnId) :
    Option Session.AttachOutcome :=
  (r.find? code).map fun s => (s.join r.outlet role id r.now).1

/-- How much an operation takes off the queues of a role to hand it to a connection. -/
def flushed (role : Role) (r : Relay) : Operation → Nat
  | .join code r' id => if r' = role then (r.joined? code r' id).elim 0 (·.flushed) else 0
  | _ => 0

/-- How many envelopes an operation hands to a connection that joins. -/
def handed (r : Relay) : Operation → Nat
  | .join code role id => (r.joined? code role id).elim 0 fun o => o.flushed + o.replayed
  | _ => 0

/-- How many sends an operation tries on a live connection. -/
def tried (r : Relay) : Operation → Nat
  | .send code destination _ => if (r.find? code).any (·.isConnected destination) then 1 else 0
  | _ => 0

/-- What has happened so far, as far as the tally has to account for it. -/
structure Account where
  /-- What connections that joined have taken off the queue of a role. -/
  flushed : Role → Nat
  /-- What waited for a role in rooms when they were taken away. -/
  lost : Role → Nat
  /-- The envelopes that were handed to connections that joined. -/
  handed : Nat
  /-- The sends that were tried on live connections. -/
  tried : Nat

/-- One more operation has happened, to the relay as it was then. -/
def Account.add (a : Account) (r : Relay) (op : Operation) : Account where
  flushed role := a.flushed role + r.flushed role op
  lost role := a.lost role + r.lost role op
  handed := a.handed + r.handed op
  tried := a.tried + r.tried op

/-- The tally agrees with the rooms, and with what has happened so far. -/
structure Balanced (r : Relay) (a : Account) : Prop where
  rooms : r.outlet.tally.roomsCreated =
    r.outlet.tally.roomsEnded + r.outlet.tally.roomsEvicted + r.count
  active : r.outlet.tally.roomsActive = r.count
  queues : ∀ role, r.outlet.tally.buffered.get role =
    r.outlet.tally.dropped.get role + a.flushed role + r.waiting role + a.lost role
  envelopes : r.outlet.tally.relayedTotal + r.outlet.tally.refusedTotal = a.tried + a.handed

variable {a : Account}

/-- The balance has nothing to do with the gauges of connections. -/
theorem Balanced.congr (h : r.Balanced a) {r' : Relay} (rooms : r'.rooms = r.rooms)
    (tally : ∃ connections, r'.outlet.tally = { r.outlet.tally with connections }) :
    r'.Balanced a := by
  obtain ⟨connections, tally⟩ := tally
  have count : r'.count = r.count := congrArg List.length rooms
  constructor
  · rw [tally, count]
    exact h.rooms
  · rw [tally, count]
    exact h.active
  · intro role
    rw [tally, waiting, rooms]
    exact h.queues role
  · rw [tally]
    exact h.envelopes

/-! ## The operations -/

/-- Each room that expires is counted as evicted, and nothing else is counted. -/
theorem tally_expireAll (o : Outlet) (expired : List Session) :
    (expired.foldl expire o).tally =
      { o.tally with roomsEvicted := o.tally.roomsEvicted + expired.length } := by
  induction expired generalizing o with
  | nil => rfl
  | cons s rest ih =>
    have first : (expire o s).tally = o.tally.evicted := by
      show (Outlet.tally _).evicted = _
      rw [Outlet.tally_closeAll]
    rw [List.foldl_cons, ih, first, List.length_cons, Nat.add_comm rest.length, ← Nat.add_assoc]
    rfl

/-- Making a room keeps the balance. -/
theorem balanced_create (h : r.Balanced a) (presenter : String) :
    (r.create presenter).2.Balanced a := by
  unfold create
  split
  next => exact ⟨h.rooms, h.active, h.queues, h.envelopes⟩
  next code drawn isDrawn =>
    have longer : (r.rooms ++ [Session.start code presenter r.limits r.now]).length =
        r.count + 1 := List.length_append
    refine ⟨?_, rfl, fun role => ?_, h.envelopes⟩
    · show r.outlet.tally.roomsCreated + 1 = _ + _ + List.length (_ ++ _)
      rw [longer, h.rooms]
      rfl
    · have nothing : ((Session.start code presenter r.limits r.now).pending role).length = 0 := by
        cases role <;> rfl
      have same : waiting { r with
          rooms := r.rooms ++ [Session.start code presenter r.limits r.now] } role =
            r.waiting role := by
        rw [waiting, List.map_append, List.sum_append, List.map_singleton, List.sum_singleton,
          nothing, Nat.add_zero]
        rfl
      show _ = _ + _ + waiting { r with rooms := _ } role + _
      rw [same]
      exact h.queues role

/-- With some rooms an operation takes away what waited in them. -/
theorem balanced_taken (h : r.Balanced a) {op : Operation} (gone : Session → Bool)
    (isTaken : r.rooms.filter gone = r.taken op) {r' : Relay}
    (rooms : r'.rooms = r.rooms.filter fun s => !gone s) (ended evicted sweeps : Nat)
    (counted : ended + evicted =
      r.outlet.tally.roomsEnded + r.outlet.tally.roomsEvicted + (r.taken op).length)
    (tally : r'.outlet.tally = { r.outlet.tally with
      roomsEnded := ended, roomsEvicted := evicted, sweeps, roomsActive := r'.count }) :
    r'.Balanced { a with lost := fun role => a.lost role + r.lost role op } := by
  -- The rooms fall into those that go and those that stay, and so does what waits in them.
  have fewer : r.count = (r.taken op).length + r'.count := by
    unfold count
    rw [List.length_eq_length_filter_add gone, isTaken, rooms]
  have less : ∀ role, r.lost role op + r'.waiting role = r.waiting role := by
    intro role
    rw [lost, ← isTaken, waiting, rooms]
    exact sum_filter_add (fun s : Session => (s.pending role).length) gone r.rooms
  refine ⟨?_, by rw [tally], fun role => ?_, ?_⟩
  · have made := h.rooms
    rw [tally]
    show r.outlet.tally.roomsCreated = ended + evicted + r'.count
    omega
  · have queued := h.queues role
    have waits := less role
    rw [tally]
    show r.outlet.tally.buffered.get role = r.outlet.tally.dropped.get role + a.flushed role +
      r'.waiting role + (a.lost role + r.lost role op)
    omega
  · rw [tally]
    exact h.envelopes

/-- Removing one does, with what waited in it entered as lost. -/
theorem balanced_remove (keyed : Keyed r.rooms) (h : r.Balanced a) (code : String) :
    (r.remove code).2.Balanced
      { a with lost := fun role => a.lost role + r.lost role (.remove code) } := by
  cases live : r.find? code with
  | none =>
    have nothing : (fun role => a.lost role + r.lost role (.remove code)) = a.lost := by
      funext role
      rw [lost, taken, live]
      rfl
    rw [remove, live, nothing]
    exact h
  | some s =>
    have isTaken : r.rooms.filter (·.code == code) = r.taken (.remove code) :=
      filter_code keyed code
    have one : (r.taken (.remove code)).length = 1 := by
      rw [taken, live]
      rfl
    have kept : (s.dismiss r.outlet endedReason).2.tally = r.outlet.tally :=
      Outlet.tally_closeAll ..
    refine balanced_taken h (·.code == code) isTaken ?_ (r.outlet.tally.roomsEnded + 1)
      r.outlet.tally.roomsEvicted r.outlet.tally.sweeps ?_ ?_
    · rw [remove, live]
      rfl
    · rw [one]
      exact Nat.add_right_comm ..
    · rw [remove, live]
      show Tally.ended _ _ = _
      rw [kept]
      rfl

/-- A sweep does, with what waited in all the rooms that it takes entered as lost. -/
theorem balanced_evict (h : r.Balanced a) (maxIdle : Nat) :
    (r.evict maxIdle).2.Balanced
      { a with lost := fun role => a.lost role + r.lost role (.evict maxIdle) } := by
  refine balanced_taken h (r.isIdle maxIdle) rfl rfl r.outlet.tally.roomsEnded
    (r.outlet.tally.roomsEvicted + (r.taken (.evict maxIdle)).length) (r.outlet.tally.sweeps + 1)
    (Nat.add_assoc ..).symm ?_
  show Tally.swept _ _ = _
  rw [tally_expireAll]
  rfl

/-- An event within a room moves the balance by what it takes off the queues and what it tries. -/
theorem balanced_within (keyed : Keyed r.rooms) (h : r.Balanced a) {s : Session}
    (live : r.find? code = some s) (room : 1 ≤ s.limits.pending) (ev : Session.Event)
    {handed' tried' : Nat}
    (counted : handed' + tried' = Session.Stage.tried ⟨s, r.outlet, r.now⟩ ev) :
    (r.perform (.within code ev)).Balanced
      { a with
        flushed := fun role => a.flushed role +
          Session.Stage.flushed ⟨s, r.outlet, r.now⟩ role ev
        handed := a.handed + handed'
        tried := a.tried + tried' } := by
  -- The stage gets a name, or every rewriting below would open it.
  obtain ⟨st, isStage⟩ : ∃ st : Session.Stage, st = ⟨s, r.outlet, r.now⟩ := ⟨_, rfl⟩
  have session : st.session = s := by rw [isStage]
  have tally : st.outlet.tally = r.outlet.tally := by rw [isStage]
  rw [← isStage] at counted ⊢
  have marked := Tally.marked_markAll st.outlet.tally (st.marks ev)
  rw [← Session.tally_step, tally] at marked
  have count : (r.put (st.step ev).session).count = r.count := List.length_map _
  rw [perform_of_live live, ← isStage]
  refine ⟨?_, ?_, fun role => ?_, ?_⟩
  · show (st.step ev).outlet.tally.roomsCreated = (st.step ev).outlet.tally.roomsEnded +
      (st.step ev).outlet.tally.roomsEvicted + (r.put (st.step ev).session).count
    rw [marked.created, marked.ended, marked.evicted, count]
    exact h.rooms
  · show (st.step ev).outlet.tally.roomsActive = (r.put (st.step ev).session).count
    rw [marked.active, count]
    exact h.active
  · have queue := Session.queue_step st (by rw [session]; exact room) ev role
    have named : (st.step ev).session.code = s.code := by rw [Session.code_step, session]
    have sum := sum_put keyed live named fun s => (s.pending role).length
    have queued := h.queues role
    rw [session] at queue
    show (st.step ev).outlet.tally.buffered.get role = (st.step ev).outlet.tally.dropped.get role +
      (a.flushed role + st.flushed role ev) + (r.put (st.step ev).session).waiting role +
        a.lost role
    rw [marked.buffered, marked.dropped]
    unfold waiting at queued ⊢
    omega
  · have envelopes := h.envelopes
    show (st.step ev).outlet.tally.relayedTotal + (st.step ev).outlet.tally.refusedTotal = _
    rw [marked.tried, Session.countP_tried]
    dsimp only
    omega

/-- An operation within a room, if there is one, moves the balance as its event does. -/
theorem balanced_deed (keyed : Keyed r.rooms) (room : ∀ s ∈ r.rooms, 1 ≤ s.limits.pending)
    (h : r.Balanced a) {op : Operation} {ev : Session.Event}
    (isDeed : op.deed = .within code ev) (spares : r.taken op = [])
    (idle : r.find? code = none →
      (∀ role, r.flushed role op = 0) ∧ r.handed op = 0 ∧ r.tried op = 0)
    (moves : ∀ s, r.find? code = some s →
      (∀ role, r.flushed role op = Session.Stage.flushed ⟨s, r.outlet, r.now⟩ role ev) ∧
      r.handed op + r.tried op = Session.Stage.tried ⟨s, r.outlet, r.now⟩ ev) :
    (r.perform op.deed).Balanced (a.add r op) := by
  have nothing : ∀ role, r.lost role op = 0 := by
    intro role
    rw [lost, spares]
    rfl
  simp only [isDeed, Account.add, nothing, Nat.add_zero]
  cases live : r.find? code with
  | none =>
    obtain ⟨flushed, handed, tried⟩ := idle live
    simp only [perform_of_gone live, flushed, handed, tried, Nat.add_zero]
    exact h
  | some s =>
    obtain ⟨flushed, counted⟩ := moves s live
    simp only [flushed]
    exact balanced_within keyed h live (room s (List.mem_of_find?_eq_some live)) ev counted

/-- **Every operation keeps the balance.** -/
theorem balanced_operate (keyed : Keyed r.rooms) (room : ∀ s ∈ r.rooms, 1 ≤ s.limits.pending)
    (h : r.Balanced a) (op : Operation) : (r.operate op).2.Balanced (a.add r op) := by
  rw [operate_deed]
  cases op with
  | create presenter => exact balanced_create h presenter
  | remove code => exact balanced_remove keyed h code
  | evict maxIdle => exact balanced_evict h maxIdle
  | claim | clear | leave =>
    exact balanced_deed keyed room h rfl rfl (fun _ => ⟨fun _ => rfl, rfl, rfl⟩)
      fun _ _ => ⟨fun _ => rfl, rfl⟩
  | join code role id =>
    -- Only a join and a sending move envelopes, and both find a room or do nothing.
    refine balanced_deed keyed room h rfl rfl (fun gone => ?_) fun s live => ?_
    · have none : r.joined? code role id = none := by rw [joined?, gone]; rfl
      refine ⟨fun other => ?_, by rw [handed, none]; rfl, rfl⟩
      rw [flushed, none]
      exact ite_self 0
    · have some : r.joined? code role id = some (s.join r.outlet role id r.now).1 := by
        rw [joined?, live]
        rfl
      refine ⟨fun other => by rw [flushed, some]; rfl, ?_⟩
      rw [handed, some]
      exact List.length_append.symm
  | send code destination e =>
    refine balanced_deed keyed room h rfl rfl (fun gone => ?_) fun s live => ?_
    · exact ⟨fun _ => rfl, rfl, by rw [tried, gone]; rfl⟩
    · refine ⟨fun _ => rfl, ?_⟩
      rw [tried, live]
      exact Nat.zero_add _
  | check | look | count | find => exact h
  | take | drop | wait => exact h.congr rfl ⟨_, rfl⟩

end Relay

end Rendezvous
