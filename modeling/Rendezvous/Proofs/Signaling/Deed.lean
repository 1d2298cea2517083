import Rendezvous.Proofs.Session.Stage
import Rendezvous.Proofs.Signaling.Reading
import Rendezvous.Proofs.Signaling.World

/-!
# Deeds

Whatever happens in the world comes to one deed at most: something is done to the rooms,
or within the one room of a code, or a connection is told something, or time passes. A
call that moves does one deed with every move (`Call.Move`), so what a stream brings and
how far the call has come need to be looked at here only. `World.turn_step` is all that
is used of a step of the world: the deed that was done, and what became of the calls.
-/

namespace Rendezvous

/-- One thing done to the relay. -/
inductive Deed where
  | nothing
  | create (presenter : String)
  | remove (code : String)
  | evict (maxIdle : Nat)
  /-- Something happens in the room of a code, if there is one. -/
  | within (code : String) (ev : Session.Event)
  /-- A connection is offered frames, one after the other. -/
  | tell (id : ConnId) (frames : List Frame)
  | connect (capacity : Nat)
  | take (id : ConnId) (count : Nat)
  | drop (id : ConnId)
  | wait (milliseconds : Nat)

namespace Relay

/-- The relay after a deed. -/
def perform (r : Relay) : Deed → Relay
  | .nothing => r
  | .create presenter => (r.create presenter).2
  | .remove code => (r.remove code).2
  | .evict maxIdle => (r.evict maxIdle).2
  | .within code ev =>
    match r.find? code with
    | some s =>
      let st := Session.Stage.step ⟨s, r.outlet, r.now⟩ ev
      { r.put st.session with outlet := st.outlet }
    | none => r
  | .tell id frames => { r with outlet := frames.foldl (fun o f => (o.push id f).2) r.outlet }
  | .connect capacity => (r.connect capacity).2
  | .take id count => (r.take id count).2
  | .drop id => r.drop id
  | .wait milliseconds => { r with now := r.now + milliseconds }

/-- Two relays that differ in their tallies at most. -/
def Alike (r r' : Relay) : Prop := ∃ tally, r = { r' with outlet := { r'.outlet with tally } }

section
variable {r r' : Relay}

theorem Alike.refl (r : Relay) : r.Alike r := ⟨r.outlet.tally, rfl⟩

theorem Alike.rooms (h : r.Alike r') : r.rooms = r'.rooms := by
  obtain ⟨tally, rfl⟩ := h
  rfl

theorem Alike.find? (h : r.Alike r') (code : String) : r.find? code = r'.find? code := by
  obtain ⟨tally, rfl⟩ := h
  rfl

theorem Alike.channel (h : r.Alike r') (id : ConnId) : r.channel id = r'.channel id := by
  obtain ⟨tally, rfl⟩ := h
  rfl

/-- What happens inside a live room is a step of its session. -/
theorem perform_of_live {code : String} {s : Session} (live : r.find? code = some s)
    (ev : Session.Event) :
    r.perform (.within code ev) =
      { r.put (Session.Stage.step ⟨s, r.outlet, r.now⟩ ev).session with
        outlet := (Session.Stage.step ⟨s, r.outlet, r.now⟩ ev).outlet } := by
  rw [perform, live]

theorem perform_of_gone {code : String} (gone : r.find? code = none) (ev : Session.Event) :
    r.perform (.within code ev) = r := by
  rw [perform, gone]

/-! ## The operations of the relay within one room -/

/-- A change of a room that tells nobody is an event of its session. -/
theorem change_eq {f : Session → Session} {ev : Session.Event}
    (same : ∀ s, Session.Stage.step ⟨s, r.outlet, r.now⟩ ev = ⟨f s, r.outlet, r.now⟩)
    (code : String) : (r.change code f).2 = r.perform (.within code ev) := by
  cases live : r.find? code with
  | none => rw [perform_of_gone live, change, live]
  | some s =>
    rw [perform_of_live live, change, live, same]
    rfl

theorem claimViewer_eq (code user : String) :
    (r.claimViewer code user).2 = r.perform (.within code (.claim user)) :=
  change_eq (fun _ => rfl) code

theorem leaveViewer_eq (code : String) :
    r.leaveViewer code = r.perform (.within code .clear) :=
  change_eq (fun _ => rfl) code

theorem leave_eq (code : String) (role : Role) (id : ConnId) :
    r.leave code role id = r.perform (.within code (.detach role id)) :=
  change_eq (fun _ => rfl) code

/-- To send is to relay inside the room. -/
theorem send_eq (code : String) (destination : Role) (e : Envelope) :
    (r.send code destination e).2 = r.perform (.within code (.relay destination e)) := by
  cases live : r.find? code with
  | none => rw [perform_of_gone live, send_of_gone live]
  | some s =>
    rw [perform_of_live live, send_of_live live]
    rfl

/-- To join is to be attached inside the room. -/
theorem join_eq (code : String) (role : Role) (id : ConnId) :
    r.join code role id = (r.isLive code, r.perform (.within code (.attach role id))) := by
  cases live : r.find? code with
  | none => rw [perform_of_gone live, isLive, join, live]; rfl
  | some s => rw [perform_of_live live, isLive, join, live]; rfl

end

end Relay

namespace Signaling

/-! ## Moves of a call -/

/-- What a client is told whose first message is no good. -/
def rejection (fault : Fault) : List Frame := [.error fault.report, .close fault.clientMessage]

/-- How a call moves, and the deed that it does with that. -/
inductive Call.Move (r : Relay) : Call → Deed → Call → Prop
  | joins {id : ConnId} {code : String} {role : Role} (live : r.isLive code = true) :
    Move r ⟨id, .awaiting⟩ (.within code (.attach role id)) ⟨id, .relaying code role⟩
  | refused {id : ConnId} (fault : Fault) :
    Move r ⟨id, .awaiting⟩ (.tell id (rejection fault)) ⟨id, .done⟩
  | hangsUp {id : ConnId} : Move r ⟨id, .awaiting⟩ .nothing ⟨id, .done⟩
  | relays {id : ConnId} {code : String} {role : Role} (e : Envelope) :
    Move r ⟨id, .relaying code role⟩ (.within code (.relay role.peer e)) ⟨id, .relaying code role⟩
  | stops {id : ConnId} {code : String} {role : Role} :
    Move r ⟨id, .relaying code role⟩ .nothing ⟨id, .leaving code role⟩
  | leaves {id : ConnId} {code : String} {role : Role} :
    Move r ⟨id, .leaving code role⟩ (.within code (.detach role id)) ⟨id, .closing⟩
  | closes {id : ConnId} :
    Move r ⟨id, .closing⟩ (.tell id [.close Call.doneReason]) ⟨id, .done⟩
  | rests {c : Call} : Move r c .nothing c

namespace Call

theorem Move.connection {r : Relay} {c c' : Call} {d : Deed} (h : c.Move r d c') :
    c'.connection = c.connection := by
  cases h <;> rfl

/-- A first message that asks for a slot takes it, or is refused if there is no room. -/
theorem move_subscribe (id : ConnId) (r : Relay) (s : Subscription) :
    ∃ d, Move r ⟨id, .awaiting⟩ d (subscribe ⟨id, .awaiting⟩ r s).1 ∧
      (subscribe ⟨id, .awaiting⟩ r s).2.Alike (r.perform d) := by
  rw [subscribe, Relay.join_eq]
  cases live : r.isLive s.code with
  | true => exact ⟨_, .joins live, ⟨_, rfl⟩⟩
  | false =>
    have gone : r.find? s.code = none := by
      rw [← Option.not_isSome_iff_eq_none]
      exact ne_true_of_eq_false live
    rw [Relay.perform_of_gone gone]
    exact ⟨_, .refused _, .refl _⟩

/-- Reading is a move. -/
theorem move_read (c : Call) (r : Relay) (next : Option Inbound) :
    ∃ d, c.Move r d (c.read r next).1 ∧ (c.read r next).2.Alike (r.perform d) := by
  obtain ⟨id, phase⟩ := c
  cases phase with
  | awaiting =>
    rcases next with _ | ⟨text | fault⟩
    · exact ⟨.nothing, .hangsUp, .refl r⟩
    · rw [read]
      dsimp only
      rw [readFirst]
      cases Subscription.ofText text with
      | error fault => exact ⟨_, .refused fault, .refl _⟩
      | ok s => exact move_subscribe id r s
    · exact ⟨.nothing, .hangsUp, .refl r⟩
  | relaying code role =>
    have stops : ∃ d, Move r ⟨id, .relaying code role⟩ d
        (stop ⟨id, .relaying code role⟩ r code role).1 ∧
        (stop ⟨id, .relaying code role⟩ r code role).2.Alike (r.perform d) :=
      ⟨.nothing, .stops, ⟨_, rfl⟩⟩
    cases isMessage : envelope? next with
    | none =>
      rw [read_of_none rfl (Or.inl isMessage)]
      exact stops
    | some e =>
      cases live : r.find? code with
      | none =>
        rw [read_of_none rfl (Or.inr live)]
        exact stops
      | some s =>
        rw [read_of_envelope rfl live isMessage, Relay.send_eq]
        exact ⟨_, .relays e, .refl _⟩
  | leaving code role | closing | done => exact ⟨.nothing, .rests, .refl r⟩

/-- So is each step of a call that reads no longer. -/
theorem move_finish (c : Call) (r : Relay) :
    ∃ d, c.Move r d (c.finish r).1 ∧ (c.finish r).2.Alike (r.perform d) := by
  obtain ⟨id, phase⟩ := c
  cases phase with
  | leaving code role =>
    refine ⟨_, .leaves, ?_⟩
    show (r.leave code role id).Alike _
    rw [Relay.leave_eq]
    exact .refl _
  | closing => exact ⟨_, .closes, .refl _⟩
  | awaiting | relaying code role | done => exact ⟨.nothing, .rests, .refl r⟩

end Call

/-! ## Turns of the world -/

namespace World

/-- The deed of an event that is none of a call. -/
def Event.deed? : Event → Option Deed
  | .create presenter => some (.create presenter)
  | .remove code => some (.remove code)
  | .evict maxIdle => some (.evict maxIdle)
  | .claim code user => some (.within code (.claim user))
  | .clear code => some (.within code .clear)
  | .join code role id => some (.within code (.attach role id))
  | .leave code role id => some (.within code (.detach role id))
  | .send code destination e => some (.within code (.relay destination e))
  | .connect capacity => some (.connect capacity)
  | .take id count => some (.take id count)
  | .drop id => some (.drop id)
  | .wait milliseconds => some (.wait milliseconds)
  | .serve _ | .read .. | .finish _ => none

/-- The number of the call whose step an event is. -/
def Event.call? : Event → Option Nat
  | .read i _ | .finish i => some i
  | _ => none

/-- The connection that an event gives to a call. -/
def Event.served? : Event → Option ConnId
  | .serve id => some id
  | _ => none

/-- What an event comes to: the deed, and what becomes of the calls. -/
inductive Turn (w : World) (ev : Event) (d : Deed) : Prop
  | outside (isDeed : ev.deed? = some d) (calls : (w.step ev).calls = w.calls)
  | begins {id : ConnId} (isServe : ev = .serve id) (quiet : d = .nothing)
    (calls : (w.step ev).calls = w.calls ++ [.start id])
  | moves {i : Nat} {c c' : Call} (isCall : ev.call? = some i) (called : w.calls[i]? = some c)
    (move : c.Move w.relay d c') (calls : (w.step ev).calls = w.calls.set i c')
  | idles {i : Nat} (isCall : ev.call? = some i) (uncalled : w.calls[i]? = none)
    (quiet : d = .nothing) (calls : (w.step ev).calls = w.calls)

/-- A call's move is a turn of the world, and a call that is not there makes none. -/
theorem turn_onCall {w : World} {ev : Event} {i : Nat} {f : Call → Relay → Call × Relay}
    (isCall : ev.call? = some i) (isStep : w.step ev = w.onCall i f)
    (isMove : ∀ c, ∃ d, c.Move w.relay d (f c w.relay).1 ∧
      (f c w.relay).2.Alike (w.relay.perform d)) :
    ∃ d, w.Turn ev d ∧ (w.step ev).relay.Alike (w.relay.perform d) := by
  cases called : w.calls[i]? with
  | none =>
    have still : w.step ev = w := by rw [isStep, onCall, called]
    refine ⟨.nothing, .idles isCall called rfl (by rw [still]), ?_⟩
    rw [still]
    exact .refl _
  | some c =>
    obtain ⟨d, move, alike⟩ := isMove c
    rw [onCall_of_some called] at isStep
    refine ⟨d, .moves isCall called move (by rw [isStep]), ?_⟩
    rw [isStep]
    exact alike

/-- An event that is none of a call does its deed, and nothing else. -/
theorem step_of_deed? {w : World} {ev : Event} {d : Deed} (isDeed : ev.deed? = some d) :
    (w.step ev).calls = w.calls ∧ (w.step ev).relay = w.relay.perform d := by
  cases ev with
  | claim code user => cases isDeed; exact ⟨rfl, Relay.claimViewer_eq ..⟩
  | clear code => cases isDeed; exact ⟨rfl, Relay.leaveViewer_eq ..⟩
  | join code role id => cases isDeed; exact ⟨rfl, congrArg Prod.snd (Relay.join_eq ..)⟩
  | leave code role id => cases isDeed; exact ⟨rfl, Relay.leave_eq ..⟩
  | send code destination e => cases isDeed; exact ⟨rfl, Relay.send_eq ..⟩
  | create | remove | evict | connect | take | drop | wait => cases isDeed; exact ⟨rfl, rfl⟩
  | serve | read | finish => cases isDeed

/-- **Each step of the world is one deed**, done from outside or with a move of a call. -/
theorem turn_step (w : World) (ev : Event) :
    ∃ d, w.Turn ev d ∧ (w.step ev).relay.Alike (w.relay.perform d) := by
  cases isDeed : ev.deed? with
  | some d =>
    obtain ⟨calls, same⟩ := step_of_deed? isDeed
    refine ⟨d, .outside isDeed calls, ?_⟩
    rw [same]
    exact .refl _
  | none =>
    cases ev with
    | serve id => exact ⟨.nothing, .begins rfl rfl rfl, .refl _⟩
    | read i next =>
      exact turn_onCall (f := fun c r => c.read r next) rfl rfl fun c => c.move_read w.relay next
    | finish i => exact turn_onCall rfl rfl fun c => c.move_finish w.relay
    | _ => cases isDeed

end World

end Signaling

end Rendezvous
