import Mathlib.Data.List.Flatten
import Rendezvous.Proofs.Signaling.Ownership
import Rendezvous.Proofs.WebSocket.Feed

/-!
# What a connection is told, and in which order

A connection that is refused is told why, and to close. Any other is sent envelopes as
long as it sits in a slot. It loses the slot before it is asked to close, or in the same
step, so no envelope follows (`Relay.occasion`), and the last thing that its call does is
to ask it once more. `Phase.Said` is what a connection may have accepted by the time its
call has come so far; every step of the world keeps to that (`orderly_step`).

So what a WebSocket client sees are all the messages that its channel accepted, and then
one close at most: nothing but a second close can stand behind the first.
-/

namespace Rendezvous

open Signaling (Call)

/-! ## Orders of frames -/

/-- The frames that a connection may ever accept. -/
inductive Outbound : List Frame → Prop
  | refused (report : ErrorReport) (reasons : List String) (few : reasons.length ≤ 1) :
    Outbound (.error report :: reasons.map .close)
  | served (es : List Envelope) (reasons : List String) (few : reasons.length ≤ 2)
    (last : ∀ reason, reasons[1]? = some reason → reason = Call.doneReason) :
    Outbound (es.map .envelope ++ reasons.map .close)

/-- Envelopes only. -/
def Plain (frames : List Frame) : Prop := ∃ es : List Envelope, frames = es.map .envelope

/-- Envelopes, and then one request to close at most. -/
def Parted (frames : List Frame) : Prop :=
  ∃ (es : List Envelope) (reason? : Option String),
    frames = es.map .envelope ++ reason?.toList.map .close

section
variable {frames more : List Frame}

theorem plain_nil : Plain [] := ⟨[], rfl⟩

theorem Plain.append (h : Plain frames) {es : List Envelope}
    (sub : more.Sublist (es.map .envelope)) : Plain (frames ++ more) := by
  obtain ⟨before, rfl⟩ := h
  obtain ⟨taken, -, rfl⟩ := List.sublist_map_iff.mp sub
  exact ⟨before ++ taken, List.map_append.symm⟩

theorem Plain.parted (h : Plain frames) : Parted frames := by
  obtain ⟨es, rfl⟩ := h
  exact ⟨es, none, (List.append_nil _).symm⟩

/-- The first request to close. -/
theorem Plain.closed (h : Plain frames) {reason : String} (sub : more.Sublist [.close reason]) :
    Parted (frames ++ more) := by
  obtain ⟨es, rfl⟩ := h
  rcases List.sublist_singleton.mp sub with rfl | rfl
  · exact ⟨es, none, rfl⟩
  · exact ⟨es, some reason, rfl⟩

/-- The second one, with which a call ends. -/
theorem Parted.closed (h : Parted frames) (sub : more.Sublist [.close Call.doneReason]) :
    Outbound (frames ++ more) := by
  obtain ⟨es, reason?, rfl⟩ := h
  obtain ⟨last, few, only, rfl⟩ : ∃ reasons : List String, reasons.length ≤ 1 ∧
      (∀ reason ∈ reasons, reason = Call.doneReason) ∧ more = reasons.map .close := by
    rcases List.sublist_singleton.mp sub with rfl | rfl
    · exact ⟨[], Nat.zero_le _, fun _ mem => absurd mem List.not_mem_nil, rfl⟩
    · exact ⟨[Call.doneReason], Nat.le_refl _, fun _ mem => List.mem_singleton.mp mem, rfl⟩
  rw [List.append_assoc, ← List.map_append]
  refine .served es _ ?_ fun reason at_one => ?_
  · rw [List.length_append]
    have := Option.length_toList_le (o := reason?)
    omega
  · cases reason? with
    | none =>
      rw [Option.toList_none, List.nil_append] at at_one
      exact only reason (List.mem_of_getElem? at_one)
    | some first =>
      rw [Option.toList_some, List.singleton_append, List.getElem?_cons_succ] at at_one
      exact only reason (List.mem_of_getElem? at_one)

theorem Parted.outbound (h : Parted frames) : Outbound frames := by
  rw [← List.append_nil frames]
  exact h.closed (List.nil_sublist _)

/-- So may any part of a rejection, an error and a request to close. -/
theorem outbound_of_rejection {fault : Fault} (sub : more.Sublist (Signaling.rejection fault)) :
    Outbound more := by
  rcases List.sublist_cons_iff.mp sub with onlyClose | ⟨rest, rfl, closes⟩
  · exact (plain_nil.closed onlyClose).outbound
  · rcases List.sublist_singleton.mp closes with rfl | rfl
    · exact .refused _ [] (Nat.zero_le _)
    · exact .refused _ [fault.clientMessage] (Nat.le_refl _)

/-- Whatever was accepted, the requests to close stand behind the messages. -/
theorem Outbound.parts (h : Outbound frames) :
    ∃ (messages : List Frame) (reasons : List String), frames = messages ++ reasons.map .close ∧
      ∀ f ∈ messages, f.isClose = false := by
  cases h with
  | refused report reasons few =>
    refine ⟨[.error report], reasons, rfl, fun f mem => ?_⟩
    rw [List.mem_singleton.mp mem]
    rfl
  | served es reasons few last =>
    refine ⟨_, reasons, rfl, fun f mem => ?_⟩
    obtain ⟨e, -, rfl⟩ := List.mem_map.mp mem
    rfl

/-- Behind a request to close there is no message. -/
theorem Outbound.closed (h : Outbound frames) :
    frames.Pairwise fun f g => f.isClose = true → g.isClose = true := by
  obtain ⟨messages, reasons, rfl, open_⟩ := h.parts
  have closes : ∀ g ∈ reasons.map Frame.close, g.isClose = true := by
    intro g mem
    obtain ⟨reason, -, rfl⟩ := List.mem_map.mp mem
    rfl
  rw [List.pairwise_append]
  refine ⟨?_, ?_, fun f _ g mem _ => closes g mem⟩
  · refine List.pairwise_of_forall_mem_list fun f mem g _ isClose => ?_
    rw [open_ f mem] at isClose
    cases isClose
  · exact List.pairwise_of_forall_mem_list fun f _ g mem _ => closes g mem

/-- All messages that were accepted are there to be seen, and of the requests to close the
first one. -/
theorem Outbound.shown (h : Outbound frames) :
    ∃ reason? : Option String, WebSocket.shown frames
      = (frames.filterMap Frame.wireText?).map .text
        ++ reason?.toList.map (.close WebSocket.normalClose) := by
  obtain ⟨messages, reasons, rfl, open_⟩ := h.parts
  have noClose : messages.any Frame.isClose = false := by
    rw [List.any_eq_false]
    intro f mem isClose
    rw [open_ f mem] at isClose
    cases isClose
  have noText : (reasons.map Frame.close).filterMap Frame.wireText? = [] := by
    rw [List.filterMap_map, List.filterMap_eq_nil_iff]
    exact fun _ _ => rfl
  refine ⟨reasons.head?, ?_⟩
  rw [WebSocket.shown_append, noClose, List.filterMap_append, noText, List.append_nil,
    WebSocket.shown_of_messages open_]
  cases reasons <;> rfl

end

/-! ## Occasions -/

/-- The deed has to do with the call of a connection: it puts the connection into a slot, or
tells it something. -/
def Deed.Concerns (d : Deed) (id : ConnId) : Prop :=
  (∃ code role, d = .within code (.attach role id)) ∨ ∃ frames, d = .tell id frames

namespace Relay

variable {r : Relay} {d : Deed} {id : ConnId} {code : String} {role : Role}

/-- The connection sits in some slot. -/
def IsSeated (r : Relay) (id : ConnId) : Prop := ∃ code role, r.Seated id code role

/-- No two rooms have the same code, and nobody sits twice. -/
structure Settled (r : Relay) : Prop where
  keyed : Keyed r.rooms
  unique : ∀ {id code role code' role'}, r.Seated id code role → r.Seated id code' role' →
    code = code' ∧ role = role'

theorem Settled.seated (settled : r.Settled) {s : Session} (mem : s ∈ r.rooms)
    (held : (s.slot role).connection = some id) : r.Seated id s.code role :=
  ⟨s, find?_of_mem settled.keyed mem, held⟩

/-- All live connections, and none of them twice. -/
theorem Settled.nodup (settled : r.Settled) : (r.rooms.flatMap Session.connections).Nodup := by
  rw [List.nodup_flatMap]
  -- A connection named twice would sit in both slots of a room, or in two rooms.
  refine ⟨fun s mem => ?_, ?_⟩
  · refine List.Nodup.filterMap ?_ (by decide)
    intro role role' id held held'
    exact (settled.unique (settled.seated mem held) (settled.seated mem held')).2
  · have apart : r.rooms.Pairwise fun s t => s.code ≠ t.code := List.pairwise_map.mp settled.keyed
    refine apart.imp_of_mem fun {s t} memS memT differ id inS inT => ?_
    obtain ⟨role, held⟩ := Session.mem_connections.mp inS
    obtain ⟨role', held'⟩ := Session.mem_connections.mp inT
    exact differ (settled.unique (settled.seated memS held) (settled.seated memT held')).1

/-- A connection that sits in one of some rooms is named once among theirs. -/
theorem Settled.count_eq_one (settled : r.Settled) {rooms : List Session}
    (sub : rooms.Sublist r.rooms) {s : Session} (mem : s ∈ rooms)
    (held : (s.slot role).connection = some id) :
    (rooms.flatMap Session.connections).count id = 1 := by
  have once : (rooms.flatMap Session.connections).Nodup :=
    settled.nodup.sublist (sub.flatMap Session.connections)
  exact List.count_eq_one_of_mem once
    (List.mem_flatMap.mpr ⟨s, mem, Session.mem_connections.mpr ⟨role, held⟩⟩)

/-- Why a deed offers frames to a connection that it does not concern: there are none; or
the connection sits in a slot and is sent a message; or it loses its slot. -/
inductive Occasion (r : Relay) (d : Deed) (id : ConnId) : Prop
  | silent (none_ : d.offers r id = [])
  | relayed {code : String} {role : Role} {e : Envelope} (seated : r.Seated id code role)
    (one : d.offers r id = [.envelope e])
  | parted {code : String} {role : Role} {reason : String} (seated : r.Seated id code role)
    (left : ¬ (r.perform d).Seated id code role) (one : d.offers r id = [.close reason])

/-- Nobody sits in a room that is gone. -/
theorem not_seated_of_gone (gone : (r.perform d).find? code = none) :
    ¬ (r.perform d).Seated id code role := by
  rintro ⟨s, found, -⟩
  rw [gone] at found
  cases found

/-- The connections of rooms that are closed are asked once each. -/
theorem occasion_of_closing (settled : r.Settled) (ended : List Session) (reason : String)
    (sub : ended.Sublist r.rooms)
    (left : ∀ s ∈ ended, ∀ role, ¬ (r.perform d).Seated id s.code role)
    (asked : d.offers r id
      = List.replicate ((ended.flatMap Session.connections).count id) (.close reason)) :
    r.Occasion d id := by
  by_cases mem : id ∈ ended.flatMap Session.connections
  · obtain ⟨s, isEnded, inside⟩ := List.mem_flatMap.mp mem
    obtain ⟨role, held⟩ := Session.mem_connections.mp inside
    have one : d.offers r id = [.close reason] := by
      rw [asked, settled.count_eq_one sub isEnded held]
      rfl
    exact .parted (settled.seated (sub.subset isEnded) held) (left s isEnded role) one
  · exact .silent (by rw [asked, List.count_eq_zero_of_not_mem mem]; rfl)

/-- **A connection is asked to close when it loses its slot, and only then.** -/
theorem occasion (settled : r.Settled) (apart : ¬ d.Concerns id) : r.Occasion d id := by
  cases d with
  | remove code =>
    cases live : r.find? code with
    | none => exact .silent (by rw [Deed.offers, live])
    | some s =>
      have gone : (r.perform (.remove code)).find? s.code = none := by
        rw [perform, find?_remove settled.keyed, code_of_find? live, live, Option.filter_some, if_neg]
        rw [code_of_find? live, bne_self_eq_false]
        exact Bool.false_ne_true
      refine occasion_of_closing settled [s] endedReason
        (List.singleton_sublist.mpr (List.mem_of_find?_eq_some live)) ?_ ?_
      · intro x isEnded role
        rw [List.mem_singleton.mp isEnded]
        exact not_seated_of_gone gone
      · rw [Deed.offers, live, List.flatMap_singleton]
        rfl
  | evict maxIdle =>
    refine occasion_of_closing settled _ expiredReason List.filter_sublist ?_ rfl
    intro s isEnded role
    obtain ⟨mem, idle⟩ := List.mem_filter.mp isEnded
    refine not_seated_of_gone ?_
    have live : r.find? s.code = some s := find?_of_mem settled.keyed mem
    rw [perform, find?_evict settled.keyed, live, Option.filter_some, idle]
    rfl
  | within code ev =>
    cases live : r.find? code with
    | none => exact .silent (by rw [Deed.offers, live])
    | some s =>
      have offers : (Deed.within code ev).offers r id = Session.Stage.offers ⟨s, r.outlet, r.now⟩ id ev := by
        rw [Deed.offers, live]
      have seated : ∀ role, (s.slot role).connection = some id → r.Seated id code role :=
        fun role held => ⟨s, live, held⟩
      cases ev with
      | relay destination e =>
        rw [Session.Stage.offers] at offers
        split at offers
        next held => exact .relayed (seated _ held) offers
        next => exact .silent offers
      | attach role other =>
        -- Somebody else attaches. This connection hears of it only if it sat in that very slot.
        have differ : id ≠ other := by
          rintro rfl
          exact apart (Or.inl ⟨code, role, rfl⟩)
        rw [Session.Stage.offers, if_neg differ, List.nil_append] at offers
        split at offers
        next held =>
          exact .parted (seated _ held) (fun still => differ (eq_of_seated_attach still)) offers
        next => exact .silent offers
      | close reason =>
        refine occasion_of_closing settled [s] reason
          (List.singleton_sublist.mpr (List.mem_of_find?_eq_some live)) ?_ ?_
        · intro x isEnded role still
          rw [List.mem_singleton.mp isEnded, code_of_find? live] at still
          obtain ⟨_, -, after⟩ := (seated_within _).mp still
          cases after
        · rw [offers, List.flatMap_singleton]
          rfl
      | detach | claim | clear | connect | take | drop | wait => exact .silent offers
  | tell other frames =>
    refine .silent (if_neg ?_)
    rintro rfl
    exact apart (Or.inr ⟨frames, rfl⟩)
  | nothing | create | connect | take | drop | wait => exact .silent rfl

/-- Whoever sits in a slot after a deed that does not concern it sat there before. -/
theorem isSeated_before (settled : r.Settled) (apart : ¬ d.Concerns id)
    (seated : (r.perform d).Seated id code role) : r.Seated id code role := by
  rcases of_seated_perform settled.keyed seated with rfl | before
  · exact absurd (Or.inl ⟨code, role, rfl⟩) apart
  · exact before

/-- A connection sits in one slot only, so who has lost that one sits nowhere. -/
theorem Settled.nowhere (settled : r.Settled) (apart : ¬ d.Concerns id)
    (seated : r.Seated id code role) (lost : ¬ (r.perform d).Seated id code role) :
    ¬ (r.perform d).IsSeated id := by
  rintro ⟨code', role', still⟩
  obtain ⟨rfl, rfl⟩ := settled.unique seated (isSeated_before settled apart still)
  exact lost still

end Relay

namespace Signaling

/-! ## What has been said to a call -/

/-- What the connection of a call may have accepted once the call has come so far. -/
def Phase.Said (phase : Phase) (isSeated : Prop) (frames : List Frame) : Prop :=
  match phase with
  | .awaiting => frames = []
  | .relaying .. | .leaving .. => Parted frames ∧ (isSeated → Plain frames)
  | .closing => Parted frames
  | .done => Outbound frames

/-- In every phase what was said is what may be accepted. -/
theorem Phase.Said.outbound {phase : Phase} {isSeated : Prop} {frames : List Frame}
    (said : phase.Said isSeated frames) : Outbound frames := by
  cases phase with
  | awaiting =>
    obtain rfl : frames = [] := said
    exact plain_nil.parted.outbound
  | relaying code role | leaving code role => exact said.1.outbound
  | closing => exact Parted.outbound said
  | done => exact said

section
variable {r : Relay} {d : Deed}

/-- A channel gains some of what the deed offers to it, and nothing else. -/
theorem gains_perform (r : Relay) (d : Deed) (id : ConnId) :
    ∃ more, more.Sublist (d.offers r id) ∧
      ((r.perform d).channel id).accepted = (r.channel id).accepted ++ more :=
  (Relay.grows_perform r d id).gains

/-- A deed that has nothing to do with a call keeps to what may be said to it. -/
theorem said_apart (settled : r.Settled) {id : ConnId} (apart : ¬ d.Concerns id) {phase : Phase}
    (inside : r.IsSeated id → ∃ code role, (⟨id, phase⟩ : Call).IsIn code role)
    (said : phase.Said (r.IsSeated id) (r.channel id).accepted) :
    phase.Said ((r.perform d).IsSeated id) ((r.perform d).channel id).accepted := by
  obtain ⟨more, sub, accepted⟩ := gains_perform r d id
  rw [accepted]
  have before : (r.perform d).IsSeated id → r.IsSeated id :=
    fun ⟨code, role, seated⟩ => ⟨code, role, Relay.isSeated_before settled apart seated⟩
  cases Relay.occasion settled apart with
  | silent nothing =>
    rw [nothing, List.sublist_nil] at sub
    rw [sub, List.append_nil]
    cases phase with
    | relaying code role | leaving code role => exact ⟨said.1, fun seated => said.2 (before seated)⟩
    | awaiting | closing | done => exact said
  | @relayed code role e seated one =>
    -- To be spoken to it must sit somewhere, and then its call is in a room.
    rw [one] at sub
    obtain ⟨_, _, isIn⟩ := inside ⟨code, role, seated⟩
    cases phase with
    | relaying code' role' | leaving code' role' =>
      have envelopes : more.Sublist ([e].map Frame.envelope) := sub
      have plain := (said.2 ⟨code, role, seated⟩).append envelopes
      exact ⟨plain.parted, fun _ => plain⟩
    | awaiting | closing | done => rcases isIn with h | h <;> cases h
  | @parted code role reason seated left one =>
    rw [one] at sub
    obtain ⟨_, _, isIn⟩ := inside ⟨code, role, seated⟩
    cases phase with
    | relaying code' role' | leaving code' role' =>
      exact ⟨(said.2 ⟨code, role, seated⟩).closed sub,
        fun still => absurd still (settled.nowhere apart seated left)⟩
    | awaiting | closing | done => rcases isIn with h | h <;> cases h

/-- Into a slot comes only who sat in none, and so is handed nothing but its backlog. -/
theorem offers_attach {id : ConnId} (away : ¬ r.IsSeated id) (code : String) (role : Role) :
    ∃ es : List Envelope, (Deed.within code (.attach role id)).offers r id = es.map .envelope := by
  rw [Deed.offers]
  cases live : r.find? code with
  | none => exact ⟨[], rfl⟩
  | some s =>
    refine ⟨(s.attach role id r.now).2.backlog, ?_⟩
    show (if id = id then _ else _) ++ (if (s.slot role).connection = some id then _ else _) = _
    rw [if_pos rfl, if_neg fun held => away ⟨code, role, s, live, held⟩, List.append_nil]

/-- **A call that moves is told nothing that may not be said to it.** -/
theorem said_move (settled : r.Settled) {c c' : Call} (move : c.Move r d c')
    (inside : r.IsSeated c.connection → ∃ code role, c.IsIn code role)
    (said : c.phase.Said (r.IsSeated c.connection) (r.channel c.connection).accepted) :
    c'.phase.Said ((r.perform d).IsSeated c.connection)
      ((r.perform d).channel c.connection).accepted := by
  have apart : ¬ d.Concerns c.connection → c.phase.Said ((r.perform d).IsSeated c.connection)
      ((r.perform d).channel c.connection).accepted :=
    fun apart => said_apart settled apart inside said
  obtain ⟨more, sub, accepted⟩ := gains_perform r d c.connection
  cases move with
  | @joins id code role live =>
    -- Nothing has been said before, and it sits nowhere yet, so what it is handed comes first.
    have nothing : (r.channel id).accepted = [] := said
    have away : ¬ r.IsSeated id := by
      intro seated
      obtain ⟨_, _, isIn⟩ := inside seated
      rcases isIn with h | h <;> cases h
    obtain ⟨es, offered⟩ := offers_attach away code role
    rw [offered] at sub
    rw [nothing, List.nil_append] at accepted
    have plain : Plain ((r.perform _).channel id).accepted := accepted ▸ plain_nil.append sub
    exact ⟨plain.parted, fun _ => plain⟩
  | @refused id fault =>
    have nothing : (r.channel id).accepted = [] := said
    rw [nothing, List.nil_append] at accepted
    rw [Deed.offers, if_pos rfl] at sub
    show Outbound ((r.perform _).channel id).accepted
    rw [accepted]
    exact outbound_of_rejection sub
  | hangsUp =>
    exact Phase.Said.outbound (apart (by simp [Deed.Concerns]))
  | relays e | rests => exact apart (by simp [Deed.Concerns])
  | stops => exact apart (by simp [Deed.Concerns])
  | leaves => exact (apart (by simp [Deed.Concerns])).1
  | closes =>
    rw [Deed.offers, if_pos rfl] at sub
    rw [accepted]
    exact Parted.closed said sub

end

namespace World

/-- Whoever sits in a slot has joined there, and nobody was told what may not be said yet. -/
structure Orderly (w : World) : Prop where
  tenanted : w.Tenanted
  said : ∀ c ∈ w.calls, c.phase.Said (w.relay.IsSeated c.connection)
    (w.relay.channel c.connection).accepted
  unserved : ∀ id, id ∉ w.calls.map (·.connection) → (w.relay.channel id).accepted = []

section
variable {w : World}

/-- Where whoever sits in a slot has joined there, nobody sits twice. -/
theorem Tenanted.settled (h : w.Tenanted) : w.relay.Settled where
  keyed := h.keyed
  unique := h.unique

theorem Tenanted.inside (h : w.Tenanted) {c : Call} (mem : c ∈ w.calls)
    (seated : w.relay.IsSeated c.connection) : ∃ code role, c.IsIn code role := by
  obtain ⟨code, role, seated⟩ := seated
  exact ⟨code, role, h.isIn mem seated⟩

/-- A call's move concerns its own connection. -/
theorem apart_of_move {r : Relay} {c c' : Call} {d : Deed} (move : c.Move r d c') {id : ConnId}
    (differ : id ≠ c.connection) : ¬ d.Concerns id := by
  rintro (⟨code, role, rfl⟩ | ⟨frames, rfl⟩) <;> cases move <;> exact differ rfl

/-- A deed that no call does concerns nobody, unless it is to join. -/
theorem apart_of_deed? {ev : Event} {d : Deed} (isDeed : ev.deed? = some d)
    (alone : ∀ code role id, ev ≠ .join code role id) (id : ConnId) : ¬ d.Concerns id := by
  rintro (⟨code, role, rfl⟩ | ⟨frames, rfl⟩)
  · cases ev with
    | join => exact alone _ _ _ rfl
    | _ => cases isDeed
  · cases ev <;> cases isDeed

/-- A turn that does not concern a connection that no call has tells it nothing. -/
theorem Orderly.unserved_apart (h : w.Orderly) {d : Deed} {id : ConnId} (apart : ¬ d.Concerns id)
    (away : id ∉ w.calls.map (·.connection)) :
    ((w.relay.perform d).channel id).accepted = [] := by
  have nobody : ¬ w.relay.IsSeated id := by
    rintro ⟨code, role, seated⟩
    obtain ⟨c, mem, rfl, -⟩ := h.tenanted.tenant seated
    exact away (List.mem_map_of_mem mem)
  have said : Phase.awaiting.Said ((w.relay.perform d).IsSeated id)
      ((w.relay.perform d).channel id).accepted :=
    said_apart h.tenanted.settled apart (fun seated => absurd seated nobody) (h.unserved id away)
  exact said

/-- Every step keeps the order, if it shares no connection. -/
theorem orderly_step (h : w.Orderly) {ev : Event} (alone : ∀ code role id, ev ≠ .join code role id)
    (fresh : ∀ id, ev.served? = some id → id ∉ w.calls.map (·.connection)) :
    (w.step ev).Orderly := by
  have after := tenanted_step h.tenanted alone fresh
  obtain ⟨d, turn, alike⟩ := w.turn_step ev
  have isSeated : ∀ id, (w.step ev).relay.IsSeated id = (w.relay.perform d).IsSeated id := by
    intro id
    simp only [Relay.IsSeated, alike.seated]
  have stays : ∀ c ∈ w.calls, ¬ d.Concerns c.connection →
      c.phase.Said ((w.relay.perform d).IsSeated c.connection)
        ((w.relay.perform d).channel c.connection).accepted := fun c mem apart =>
    said_apart h.tenanted.settled apart (h.tenanted.inside mem) (h.said c mem)
  have idle : ∀ id, ¬ Deed.nothing.Concerns id := by simp [Deed.Concerns]
  refine ⟨after, fun c mem => ?_, fun id away => ?_⟩
  · rw [isSeated, alike.channel]
    cases turn with
    | outside isDeed calls => exact stays c (calls ▸ mem) (apart_of_deed? isDeed alone _)
    | @begins id isServe quiet calls =>
      subst quiet
      rw [calls] at mem
      rcases List.mem_append.mp mem with old | new
      · exact stays c old (idle _)
      · rw [List.mem_singleton.mp new]
        exact h.unserved_apart (idle id) (fresh id (congrArg Event.served? isServe))
    | idles isCall uncalled quiet calls =>
      subst quiet
      exact stays c (calls ▸ mem) (idle _)
    | @moves i c₀ c' isCall called move calls =>
      have inside : i < w.calls.length := (List.getElem?_eq_some_iff.mp called).1
      have mem₀ : c₀ ∈ w.calls := List.mem_of_getElem? called
      have moved : c' ∈ (w.step ev).calls := by
        rw [calls]
        exact List.mem_set inside c'
      -- Two calls with one connection are the same, so it is the one that moves or another.
      by_cases mine : c.connection = c₀.connection
      · obtain rfl : c = c' := after.eq_of_connection mem moved (mine.trans move.connection.symm)
        rw [mine]
        exact said_move h.tenanted.settled move (h.tenanted.inside mem₀) (h.said c₀ mem₀)
      · rw [calls] at mem
        rcases List.mem_or_eq_of_mem_set mem with old | rfl
        · exact stays c old (apart_of_move move mine)
        · exact absurd move.connection mine
  · rw [connections_step, List.mem_append, not_or] at away
    rw [alike.channel]
    refine h.unserved_apart ?_ away.1
    cases turn with
    | outside isDeed calls => exact apart_of_deed? isDeed alone id
    | begins isServe quiet calls => exact quiet ▸ idle id
    | idles isCall uncalled quiet calls => exact quiet ▸ idle id
    | moves isCall called move calls =>
      refine apart_of_move move ?_
      rintro rfl
      exact away.1 (List.mem_map_of_mem (List.mem_of_getElem? called))

/-- In order, every connection has accepted what it may accept. -/
theorem Orderly.outbound (h : w.Orderly) (id : ConnId) :
    Outbound (w.relay.channel id).accepted := by
  by_cases served : id ∈ w.calls.map (·.connection)
  · obtain ⟨c, mem, rfl⟩ := List.mem_map.mp served
    exact (h.said c mem).outbound
  · rw [h.unserved id served]
    exact plain_nil.parted.outbound

end

/-- Order lasts through every run in which no connection is shared. -/
theorem orderly_run (limits : Limits) (candidates : Nat → String) {events : List Event}
    (exclusive : Exclusive events) : ((start limits candidates).run events).Orderly := by
  induction events using List.reverseRecOn with
  | nil =>
    refine ⟨tenanted_run limits candidates exclusive, ?_, fun _ _ => rfl⟩
    exact fun _ mem => absurd mem List.not_mem_nil
  | append_singleton events ev ih =>
    have before := ih (exclusive.earlier (List.prefix_append ..))
    rw [run_snoc]
    exact orderly_step before exclusive.no_join (exclusive.fresh limits candidates)

/-- Taking frames shares no connection, however often it is done. -/
theorem Exclusive.of_readers {events seen : List Event} (h : Exclusive events)
    (sub : (seen.filter (·.reader?.isNone)).Sublist events) : Exclusive seen where
  once := by
    -- Who takes frames serves nobody.
    have unread : seen.filterMap Event.served?
        = (seen.filter (·.reader?.isNone)).filterMap Event.served? := by
      rw [List.filterMap_filter]
      refine List.filterMap_congr fun ev _ => ?_
      cases ev <;> rfl
    rw [unread]
    exact h.once.sublist (sub.filterMap _)
  alone code role id mem := h.alone code role id (sub.subset (List.mem_filter.mpr ⟨mem, rfl⟩))

open WebSocket (Feed shown normalClose) in
/-- **Every connection is told things in order.** If no connection is shared, what one has
accepted is a refusal or envelopes with two requests to close at most, and behind a request
to close there is no message. However the writer of a socket takes its turns between the
events, what it begins is the first part of what there is to show, texts and one close at
most; no message that was accepted stands behind the close; and once all has gone through
to the client, all has been begun. -/
theorem told_in_order (limits : Limits) (candidates : Nat → String) {events : List Event}
    (exclusive : Exclusive events) (id : ConnId) :
    (∀ frames, frames = (((start limits candidates).run events).relay.channel id).accepted →
      Outbound frames ∧ frames.Pairwise fun f g => f.isClose = true → g.isClose = true) ∧
    ∀ reading turns feed, turns.filterMap Feed.Event.world? = events →
      feed = (Feed.start limits candidates id reading).run turns →
      Outbound feed.channel.accepted ∧
      feed.begun <+: shown feed.channel.accepted ∧
      (∃ (texts : List String) (reason? : Option String),
        feed.begun = texts.map .text ++ reason?.toList.map (.close normalClose)) ∧
      (∃ reason? : Option String, shown feed.channel.accepted
        = (feed.channel.accepted.filterMap Frame.wireText?).map .text
          ++ reason?.toList.map (.close normalClose)) ∧
      (feed.socket.Flowing → ∀ fuel, feed.channel.queue.length < fuel →
        (feed.step (.write fuel)).begun = shown feed.channel.accepted) := by
  refine ⟨?_, ?_⟩
  · rintro _ rfl
    have outbound := (orderly_run limits candidates exclusive).outbound id
    exact ⟨outbound, outbound.closed⟩
  · rintro reading turns feed rfl rfl
    obtain ⟨connection, faithful⟩ := Feed.faithful_run limits candidates id reading turns
    obtain ⟨seen, sub, same⟩ := Feed.world_run limits candidates id reading turns
    -- What the world of the feed went through is part of the events, so it was exclusive too.
    have outbound : Outbound ((Feed.start limits candidates id reading).run turns).channel.accepted := by
      rw [Feed.channel, connection, same]
      exact (orderly_run limits candidates (exclusive.of_readers sub)).outbound id
    refine ⟨outbound, faithful.begun_prefix, ?_, outbound.shown, fun flowing fuel inTime =>
      faithful.begun_all flowing inTime⟩
    obtain ⟨n, -, begun⟩ := faithful.earlier
    rw [begun]
    exact WebSocket.shown_eq _

/-- A host is sent an offer, joins its room again on a second connection, and hangs up the
first one. -/
def retiring : List Event :=
  let offer : Option Inbound := some (.text "\x7b\"type\":\"offer\",\"trackType\":\"video\"\x7d")
  rejoining.take 9 ++ [.read 2 offer] ++ rejoining.drop 9 ++ [.read 0 none, .finish 0, .finish 0]

theorem exclusive_retiring : Exclusive retiring where
  once := by decide
  alone code role id mem := by simp [retiring, rejoining] at mem

open WebSocket (Feed shown normalClose) in
/-- The first connection is sent the offer and asked to close twice, and its client sees the
offer and a close. -/
theorem told_in_order_retiring :
    let frames := (((start ⟨4, 2⟩ fun _ => "room").run retiring).relay.channel ⟨0⟩).accepted
    let feed := (Feed.start ⟨4, 2⟩ (fun _ => "room") ⟨0⟩ true).run (retiring.map .world)
    Exclusive retiring ∧ Outbound frames ∧ frames.map Frame.isClose = [false, true, true] ∧
    feed.socket.Flowing ∧ (feed.step (.write 9)).begun.length = 2 ∧
    (feed.step (.write 9)).begun = shown feed.channel.accepted := by
  obtain ⟨first, second⟩ := told_in_order ⟨4, 2⟩ (fun _ => "room") exclusive_retiring ⟨0⟩
  have flowing : ((Feed.start ⟨4, 2⟩ (fun _ => "room") ⟨0⟩ true).run
      (retiring.map .world)).socket.Flowing := ⟨rfl, rfl, rfl, rfl⟩
  obtain ⟨-, -, -, -, all⟩ := second true (retiring.map .world) _ rfl rfl
  exact ⟨exclusive_retiring, (first _ rfl).1, rfl, flowing, rfl, all flowing 9 (by decide)⟩

end World

end Signaling

end Rendezvous
