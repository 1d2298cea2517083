import Rendezvous.Proofs.Signaling.Offers
import Rendezvous.Proofs.Signaling.Operation

/-!
# Rooms do not see each other

What a relay does for one room depends on that room alone. The argument runs one relay
beside another: the second is asked only what concerns one code, and draws this code and no
other. As far as the code goes the two stay in the same state and give the same answers
(`transcript_solitary`): what concerns the code does the same to both
(`Mirrored.common`), and what does not concern it is not seen by the room or by its
guests (`Mirrored.apart`).

So two runs that were asked the same about a code are both like the one run in which
nothing else was asked (`rooms_isolated`).
-/

namespace Rendezvous

/-! ## One event, whatever the connections -/

namespace Session

/-- What an event makes of a session does not depend on the connections. -/
theorem session_step_congr (s : Session) (o o' : Outlet) (now : Instant) (ev : Event) :
    (Stage.step ⟨s, o, now⟩ ev).session = (Stage.step ⟨s, o', now⟩ ev).session := by
  cases ev with
  | relay destination e =>
    show (s.send o destination e now).2.1 = (s.send o' destination e now).2.1
    rw [send_session, send_session]
  | _ => rfl

/-- What an event has to offer depends on the session alone. -/
theorem offers_congr (s : Session) (o o' : Outlet) (now : Instant) (id : ConnId) (ev : Event) :
    Stage.offers ⟨s, o, now⟩ id ev = Stage.offers ⟨s, o', now⟩ id ev := by
  cases ev <;> rfl

/-- What comes of a message depends on the channel of its destination only. -/
theorem send_congr (s : Session) {o o' : Outlet} {destination : Role}
    (same : ∀ id, (s.slot destination).connection = some id → o.channel id = o'.channel id)
    (e : Envelope) (now : Instant) :
    (s.send o destination e now).1 = (s.send o' destination e now).1 := by
  cases held : (s.slot destination).connection with
  | none => rw [send_of_none s o held, send_of_none s o' held]
  | some id =>
    have channel := same id held
    rw [send_of_connection s o held, send_of_connection s o' held]
    cases refused : (o.channel id).refusal? with
    | none => rw [Outlet.deliver_of_none refused, Outlet.deliver_of_none (channel ▸ refused)]
    | some refusal =>
      rw [Outlet.deliver_of_refusal refused, Outlet.deliver_of_refusal (channel ▸ refused)]

/-- Who sits in neither slot, and is not put into one now, is offered nothing. -/
theorem offers_of_away {st : Stage} {id : ConnId}
    (away : ∀ role, (st.session.slot role).connection ≠ some id) {ev : Event}
    (apart : ∀ role, ev ≠ .attach role id) : st.offers id ev = [] := by
  cases ev with
  | relay destination e => exact if_neg (away destination)
  | attach role other =>
    have differ : id ≠ other := by
      rintro rfl
      exact apart role rfl
    rw [Stage.offers, if_neg differ, if_neg (away role), List.append_nil]
  | close reason =>
    have absent : id ∉ st.session.connections := by
      intro named
      obtain ⟨role, held⟩ := mem_connections.mp named
      exact away role held
    rw [Stage.offers, List.count_eq_zero_of_not_mem absent]
    rfl
  | detach | claim | clear | connect | take | drop | wait => rfl

end Session

/-- How much time passes with a deed. -/
def Deed.elapsed : Deed → Nat
  | .wait milliseconds => milliseconds
  | _ => 0

namespace Relay

variable {r p : Relay} {code : String} {guests : List ConnId}

/-! ## What any deed leaves -/

/-- No deed changes the bounds of rooms or the candidates, and time passes by itself. -/
theorem fixed_perform (r : Relay) (d : Deed) : (r.perform d).limits = r.limits ∧
    (r.perform d).candidates = r.candidates ∧ (r.perform d).now = r.now + d.elapsed := by
  cases d with
  | create presenter =>
    show (r.create presenter).2.limits = _ ∧ (r.create presenter).2.candidates = _ ∧
      (r.create presenter).2.now = _
    unfold create
    split <;> exact ⟨rfl, rfl, rfl⟩
  | remove code =>
    show (r.remove code).2.limits = _ ∧ (r.remove code).2.candidates = _ ∧
      (r.remove code).2.now = _
    unfold remove
    split <;> exact ⟨rfl, rfl, rfl⟩
  | within code ev =>
    cases live : r.find? code with
    | none =>
      rw [perform_of_gone live]
      exact ⟨rfl, rfl, rfl⟩
    | some s =>
      rw [perform_of_live live]
      exact ⟨rfl, rfl, rfl⟩
  | nothing | evict | tell | connect | take | drop | wait => exact ⟨rfl, rfl, rfl⟩

/-! ## What is found under a code -/

/-- Of rooms with different codes one at most has this one. -/
theorem filter_code {rooms : List Session} (keyed : Keyed rooms) (code : String) :
    rooms.filter (·.code == code) = (rooms.find? (·.code == code)).toList := by
  induction rooms with
  | nil => rfl
  | cons s rest ih =>
    obtain ⟨new, keyedRest⟩ := List.nodup_cons.mp keyed
    rw [List.filter_cons, List.find?_cons]
    cases matched : s.code == code with
    | false => exact ih keyedRest
    | true =>
      have others : rest.filter (·.code == code) = [] := by
        rw [List.filter_eq_nil_iff]
        intro x mem same
        have shared : x.code = s.code := (beq_iff_eq.mp same).trans (beq_iff_eq.mp matched).symm
        exact new (List.mem_map.mpr ⟨x, mem, shared⟩)
      rw [if_pos rfl, others]
      rfl

/-- Which room of a code is among some rooms. -/
theorem filter_filter_code (keyed : Keyed r.rooms) (chosen : Session → Bool) (code : String) :
    (r.rooms.filter chosen).filter (·.code == code) = ((r.find? code).filter chosen).toList := by
  have keyedSome : Keyed (r.rooms.filter chosen) := keyed.sublist (List.filter_sublist.map _)
  rw [filter_code keyedSome, find?_filter keyed]
  rfl

/-- A relay that draws one code only makes the next room under it, if it may. -/
theorem create_of_constant (constant : ∀ n, p.candidates n = code)
    (usable : code.isEmpty = false) (absent : p.find? code = none) (presenter : String) :
    (p.create presenter).1 = .ok code := by
  have isDrawn : p.draw maxDraws p.drawn = (some code, p.drawn + 1) := by
    show p.draw (31 + 1) p.drawn = _
    rw [draw, constant, usable, isLive, absent]
    rfl
  rw [create, isDrawn]

/-! ## Guests -/

/-- The guests sit in the room of the code or nowhere, and nobody else sits in it. -/
structure Guarded (r : Relay) (code : String) (guests : List ConnId) : Prop where
  keyed : Keyed r.rooms
  seated : ∀ {id other role}, r.Seated id other role → (id ∈ guests ↔ other = code)

/-- A room stays guarded through an operation that lets only its guests in. -/
theorem Guarded.after (h : r.Guarded code guests) {op : Operation}
    (admits : ∀ other id, r.admitted? op = some (other, id) → (id ∈ guests ↔ other = code)) :
    (r.operate op).2.Guarded code guests where
  keyed := by
    rw [operate_deed]
    exact keyed_perform h.keyed _
  seated := by
    intro id other role seated
    rcases of_seated_operate h.keyed seated with admitted | before
    · exact admits other id admitted
    · exact h.seated before

/-- A guest sits in no other room. -/
theorem Guarded.away (h : r.Guarded code guests) {other : String} (differ : other ≠ code)
    {id : ConnId} (guest : id ∈ guests) (role : Role) : ¬ r.Seated id other role :=
  fun seated => differ ((h.seated seated).mp guest)

/-- Whatever else happens in another room, a guest is offered nothing there. -/
theorem Guarded.offers_within (h : r.Guarded code guests) {other : String} (differ : other ≠ code)
    {id : ConnId} (guest : id ∈ guests) {ev : Session.Event}
    (apart : ∀ role, r.isLive other = true → ev ≠ .attach role id) :
    (Deed.within other ev).offers r id = [] := by
  rw [Deed.offers]
  cases live : r.find? other with
  | none => rfl
  | some s =>
    refine Session.offers_of_away (fun role held => ?_) fun role => apart role ?_
    · exact h.away differ guest role ⟨s, live, held⟩
    · rw [isLive, live, Option.isSome_some]

/-- Who sits in rooms of one code only is not named in any others. -/
theorem count_filter_code {rooms : List Session} {id : ConnId}
    (own : ∀ s ∈ rooms, id ∈ s.connections → s.code = code) :
    (rooms.flatMap Session.connections).count id =
      ((rooms.filter (·.code == code)).flatMap Session.connections).count id := by
  induction rooms with
  | nil => rfl
  | cons s rest ih =>
    have later := ih fun x mem => own x (List.mem_cons_of_mem _ mem)
    rw [List.filter_cons, List.flatMap_cons, List.count_append, later]
    split
    next => rw [List.flatMap_cons, List.count_append]
    next others =>
      have absent : id ∉ s.connections := by
        intro named
        exact others (beq_iff_eq.mpr (own s List.mem_cons_self named))
      rw [List.count_eq_zero_of_not_mem absent, Nat.zero_add]

/-- Of the rooms that a sweep takes, a guest hears of its own only. -/
theorem Guarded.count_filter (h : r.Guarded code guests) {id : ConnId} (guest : id ∈ guests)
    (chosen : Session → Bool) :
    ((r.rooms.filter chosen).flatMap Session.connections).count id =
      (((r.find? code).filter chosen).toList.flatMap Session.connections).count id := by
  rw [← filter_filter_code h.keyed]
  apply count_filter_code
  intro s mem named
  obtain ⟨role, held⟩ := Session.mem_connections.mp named
  have live : r.find? s.code = some s := find?_of_mem h.keyed (List.mem_filter.mp mem).1
  exact (h.seated ⟨s, live, held⟩).mp guest

/-! ## Relays that are alike for one code -/

/-- Two relays with the same time and bounds, the same room under the code, and the same
channels of its guests. -/
structure SameFor (code : String) (guests : List ConnId) (r p : Relay) : Prop where
  limits : r.limits = p.limits
  now : r.now = p.now
  room : r.find? code = p.find? code
  channel : ∀ id ∈ guests, r.channel id = p.channel id

namespace SameFor

variable {d : Deed}

theorem refl (r : Relay) : SameFor code guests r r := ⟨rfl, rfl, rfl, fun _ _ => rfl⟩

theorem symm (h : SameFor code guests r p) : SameFor code guests p r :=
  ⟨h.limits.symm, h.now.symm, h.room.symm, fun id guest => (h.channel id guest).symm⟩

theorem trans {q : Relay} (h : SameFor code guests r p) (h' : SameFor code guests p q) :
    SameFor code guests r q :=
  ⟨h.limits.trans h'.limits, h.now.trans h'.now, h.room.trans h'.room,
    fun id guest => (h.channel id guest).trans (h'.channel id guest)⟩

theorem isLive (h : SameFor code guests r p) : r.isLive code = p.isLive code := by
  rw [Relay.isLive, Relay.isLive, h.room]

theorem isIdle (h : SameFor code guests r p) (maxIdle : Nat) :
    r.isIdle maxIdle = p.isIdle maxIdle := by
  funext s
  rw [Relay.isIdle, Relay.isIdle, h.now]

/-- The same deed, done to both, keeps them alike if it does the same to the room and to
its guests. -/
theorem perform (h : SameFor code guests r p)
    (room : (r.perform d).find? code = (p.perform d).find? code)
    (channel : ∀ id ∈ guests, (r.perform d).channel id = (p.perform d).channel id) :
    SameFor code guests (r.perform d) (p.perform d) := by
  obtain ⟨limits, -, now⟩ := r.fixed_perform d
  obtain ⟨limits', -, now'⟩ := p.fixed_perform d
  refine ⟨?_, ?_, room, channel⟩
  · rw [limits, limits', h.limits]
  · rw [now, now', h.now]

/-- A deed that does nothing to them leaves a relay as it was, as far as the code goes. -/
theorem of_idle (timeless : d.elapsed = 0) (room : (r.perform d).find? code = r.find? code)
    (channel : ∀ id ∈ guests, (r.perform d).channel id = r.channel id) :
    SameFor code guests (r.perform d) r := by
  obtain ⟨limits, -, now⟩ := r.fixed_perform d
  refine ⟨limits, ?_, room, channel⟩
  rw [now, timeless, Nat.add_zero]

/-- Deeds from inside show on the channels by what they offer. -/
theorem channel_of_offers (h : SameFor code guests r p) (inside : d.isOutside = false)
    (offers : ∀ id ∈ guests, d.offers r id = d.offers p id) :
    ∀ id ∈ guests, (r.perform d).channel id = (p.perform d).channel id := by
  intro id guest
  rw [channel_perform r inside, channel_perform p inside, h.channel id guest, offers id guest]

/-- What happens in the room of the code. -/
theorem within (h : SameFor code guests r p) {ev : Session.Event} (inside : ev.isOutside = false) :
    SameFor code guests (r.perform (.within code ev)) (p.perform (.within code ev)) := by
  apply h.perform
  · rw [find?_within, find?_within, if_pos rfl, if_pos rfl, h.room, h.now]
    cases p.find? code with
    | none => rfl
    | some s => exact congrArg some (Session.session_step_congr ..)
  · refine h.channel_of_offers inside fun id _ => ?_
    rw [Deed.offers, Deed.offers, h.room, h.now]
    cases p.find? code with
    | none => rfl
    | some s => exact Session.offers_congr ..

/-- Removing the room of the code keeps two relays the same for it. -/
theorem remove (h : SameFor code guests r p) (keyed : Keyed r.rooms) (keyed' : Keyed p.rooms) :
    SameFor code guests (r.perform (.remove code)) (p.perform (.remove code)) := by
  apply h.perform
  · rw [Relay.perform, Relay.perform, find?_remove keyed, find?_remove keyed', h.room]
  · refine h.channel_of_offers rfl fun id _ => ?_
    rw [Deed.offers, Deed.offers, h.room, h.now]
    cases p.find? code with
    | none => rfl
    | some s => exact Session.offers_congr ..

/-- So does a sweep, which sees the same room there. -/
theorem evict (h : SameFor code guests r p) (guarded : r.Guarded code guests)
    (guarded' : p.Guarded code guests) (maxIdle : Nat) :
    SameFor code guests (r.perform (.evict maxIdle)) (p.perform (.evict maxIdle)) := by
  apply h.perform
  · rw [Relay.perform, Relay.perform, find?_evict guarded.keyed, find?_evict guarded'.keyed,
      h.room, h.isIdle]
  · refine h.channel_of_offers rfl fun id guest => ?_
    rw [Deed.offers, Deed.offers, guarded.count_filter guest, guarded'.count_filter guest,
      h.room, h.isIdle]

theorem take (h : SameFor code guests r p) (id : ConnId) (most : Nat) :
    SameFor code guests (r.perform (.take id most)) (p.perform (.take id most)) := by
  refine h.perform h.room fun other guest => ?_
  show (r.outlet.lines.take id most).2.get other = (p.outlet.lines.take id most).2.get other
  have same : r.outlet.lines.get other = p.outlet.lines.get other := h.channel other guest
  by_cases mine : other = id
  · subst mine
    rw [Lines.get_take_self, Lines.get_take_self, same]
  · rw [Lines.get_take_ne mine, Lines.get_take_ne mine, same]

theorem drop (h : SameFor code guests r p) (id : ConnId) :
    SameFor code guests (r.perform (.drop id)) (p.perform (.drop id)) := by
  refine h.perform h.room fun other guest => ?_
  show (r.outlet.lines.drop id).get other = (p.outlet.lines.drop id).get other
  have same : r.outlet.lines.get other = p.outlet.lines.get other := h.channel other guest
  by_cases mine : other = id
  · subst mine
    rw [Lines.get_drop_self, Lines.get_drop_self, same]
  · rw [Lines.get_drop_ne mine, Lines.get_drop_ne mine, same]

/-- A room that one of them makes under the code, the other makes as well, if it draws that
code only. -/
theorem create (h : SameFor code guests r p) (constant : ∀ n, p.candidates n = code)
    {presenter : String} (made : (r.create presenter).1 = .ok code) :
    (p.create presenter).1 = .ok code ∧
    SameFor code guests (r.perform (.create presenter)) (p.perform (.create presenter)) := by
  rcases r.create_cases presenter with ⟨fault, failed, -⟩ | ⟨drawn, drew, usable, absent, rooms⟩
  · rw [failed] at made
    cases made
  obtain rfl : drawn = code := Except.ok.inj (drew.symm.trans made)
  have absent' : p.find? drawn = none := h.room ▸ absent
  have made' := create_of_constant constant usable absent' presenter
  rcases p.create_cases presenter with ⟨fault, failed, -⟩ | ⟨drawn', drew', -, -, rooms'⟩
  · rw [failed] at made'
    cases made'
  obtain rfl : drawn' = drawn := Except.ok.inj (drew'.symm.trans made')
  refine ⟨made', h.perform ?_ (h.channel_of_offers rfl fun _ _ => rfl)⟩
  show (r.create presenter).2.find? _ = (p.create presenter).2.find? _
  rw [find?_snoc_self rooms absent rfl, find?_snoc_self rooms' absent' rfl, h.limits, h.now]

end SameFor

/-! ## What the code does not hear of -/

namespace Guarded

/-- What happens in another room changes neither this one nor what its guests are told. -/
theorem elsewhere (h : r.Guarded code guests) {other : String} (differ : other ≠ code)
    {ev : Session.Event} (inside : ev.isOutside = false)
    (apart : ∀ id ∈ guests, ∀ role, r.isLive other = true → ev ≠ .attach role id) :
    SameFor code guests (r.perform (.within other ev)) r := by
  refine .of_idle rfl ?_ fun id guest => ?_
  · rw [find?_within, if_neg differ]
  · have silent := h.offers_within differ guest (apart id guest)
    rw [channel_perform r (d := .within other ev) inside, silent]
    rfl

/-- **What does not concern a code leaves its room and its guests as they were.** -/
theorem unheard (h : r.Guarded code guests) {op : Operation}
    (admits : ∀ other id, r.admitted? op = some (other, id) → (id ∈ guests ↔ other = code))
    (apart : op.concerns code guests (r.operate op).1 = false) :
    SameFor code guests (r.operate op).2 r := by
  have differ : ∀ {other}, op.code? = some other → other ≠ code := by
    intro other names
    rw [Operation.concerns_of_code? names] at apart
    exact ne_of_beq_false apart
  rw [operate_deed]
  cases op with
  | create presenter =>
    refine .of_idle rfl ?_ fun id _ => channel_perform r rfl id
    show (r.create presenter).2.find? code = r.find? code
    rcases r.create_cases presenter with ⟨fault, -, rooms⟩ | ⟨drawn, drew, -, -, rooms⟩
    · rw [find?, rooms]
      rfl
    · refine find?_snoc_ne rooms fun same => ?_
      rw [operate, drew, ← same] at apart
      simp [Operation.concerns, Answer.makes, Session.start] at apart
  | remove other =>
    refine .of_idle rfl ?_ fun id guest => ?_
    · show (r.remove other).2.find? code = r.find? code
      rw [find?_remove h.keyed]
      cases live : r.find? code with
      | none => rfl
      | some s =>
        rw [Option.filter_some, if_pos]
        rw [code_of_find? live]
        exact bne_iff_ne.mpr (differ rfl).symm
    · have closed : (Deed.within other (.close endedReason)).offers r id = [] := by
        apply h.offers_within (differ rfl) guest
        intro role live attaches
        cases attaches
      rw [channel_perform r rfl]
      exact congrArg (r.channel id).offerAll closed
  | claim other user | clear other | leave other role id | send other destination e =>
    apply h.elsewhere (differ rfl) rfl
    intro guest isGuest role live attaches
    cases attaches
  | join other role id =>
    -- Whoever joins another room is no guest of this one.
    refine h.elsewhere (differ rfl) rfl fun guest isGuest role' live attaches => ?_
    cases attaches
    have admitted : r.admitted? (.join other role id) = some (other, id) := if_pos live
    exact differ rfl ((admits other id admitted).mp isGuest)
  | take id most =>
    refine .of_idle rfl rfl fun other guest => ?_
    have others : other ≠ id := by
      rintro rfl
      exact of_decide_eq_false apart guest
    exact Lines.get_take_ne others ..
  | drop id =>
    refine .of_idle rfl rfl fun other guest => ?_
    have others : other ≠ id := by
      rintro rfl
      exact of_decide_eq_false apart guest
    exact Lines.get_drop_ne others ..
  | check | look | count | find => exact .refl r
  | evict | wait => cases apart

end Guarded

/-! ## What the code hears of -/

/-- Whether a change took place says whether the code was live. -/
theorem change_answer (r : Relay) (code : String) (f : Session → Session) :
    (r.change code f).1 = r.isLive code := by
  rw [change, isLive]
  cases r.find? code <;> rfl

theorem remove_answer (r : Relay) (code : String) : (r.remove code).1 = r.isLive code := by
  rw [remove, isLive]
  cases r.find? code <;> rfl

/-- What a sweep answers of one code: whether its room was idle. -/
theorem evict_answer (keyed : Keyed r.rooms) (maxIdle : Nat) (code : String) :
    (r.evict maxIdle).1.filter (· == code) =
      ((r.find? code).filter (r.isIdle maxIdle)).toList.map (·.code) := by
  rw [← filter_filter_code keyed]
  exact List.filter_map ..

/-- The second relay is like the first one for the code, and draws this code only. -/
structure Mirrored (code : String) (guests : List ConnId) (r p : Relay) : Prop where
  guarded : r.Guarded code guests
  solitary : p.Guarded code guests
  same : SameFor code guests r p
  constant : ∀ n, p.candidates n = code

namespace Mirrored

variable {op : Operation}

/-- What comes of a message in the room depends on the channel of a guest only. -/
theorem send (h : Mirrored code guests r p) (destination : Role) (e : Envelope) :
    (p.send code destination e).1 = (r.send code destination e).1 := by
  cases live : r.find? code with
  | none => rw [send_of_gone live, send_of_gone (h.same.room ▸ live)]
  | some s =>
    have live' : p.find? code = some s := h.same.room ▸ live
    rw [send_of_live live, send_of_live live', h.same.now]
    refine congrArg (Except.mapError Fault.delivery) (s.send_congr (fun id held => ?_) ..)
    have guest : id ∈ guests := (h.guarded.seated ⟨s, live, held⟩).mpr rfl
    exact (h.same.channel id guest).symm

/-- What concerns the code is answered alike. -/
theorem answer (h : Mirrored code guests r p)
    (heard : op.concerns code guests (r.operate op).1 = true) :
    (p.operate op).1.about code = (r.operate op).1.about code := by
  have live := h.same.isLive
  cases op with
  | create presenter =>
    -- A creation concerns the room only by making it, so the answer is known.
    have made := Answer.result_of_makes heard
    have made' := (h.same.create h.constant made).1
    rw [operate, operate, made, made']
  | remove other =>
    obtain rfl := Operation.eq_of_concerns rfl heard
    rw [operate, operate, remove_answer, remove_answer, live]
  | evict maxIdle =>
    apply congrArg Answer.evicted
    rw [evict_answer h.solitary.keyed, evict_answer h.guarded.keyed, h.same.room, h.same.isIdle]
  | claim other user =>
    obtain rfl := Operation.eq_of_concerns rfl heard
    rw [operate, operate, claimViewer, claimViewer, change_answer, change_answer, live]
  | join other role id =>
    obtain rfl := Operation.eq_of_concerns rfl heard
    rw [operate, operate, join_eq, join_eq, live]
  | send other destination e =>
    obtain rfl := Operation.eq_of_concerns rfl heard
    rw [operate, operate, h.send]
  | check other =>
    obtain rfl := Operation.eq_of_concerns rfl heard
    rw [operate, operate, live]
  | look other =>
    obtain rfl := Operation.eq_of_concerns rfl heard
    rw [operate, operate, h.same.room]
  | take id most =>
    have same : r.outlet.lines.get id = p.outlet.lines.get id :=
      h.same.channel id (of_decide_eq_true heard)
    show Answer.frames ((p.outlet.lines.get id).take most).1 =
      Answer.frames ((r.outlet.lines.get id).take most).1
    rw [same]
  | clear | leave | drop | wait => rfl
  | count | find => cases heard

/-- What concerns the code does the same to both. -/
theorem heard (h : Mirrored code guests r p)
    (heard : op.concerns code guests (r.operate op).1 = true) :
    SameFor code guests (r.operate op).2 (p.operate op).2 := by
  rw [operate_deed, operate_deed]
  cases op with
  | create presenter =>
    exact (h.same.create h.constant (Answer.result_of_makes heard)).2
  | remove other =>
    obtain rfl := Operation.eq_of_concerns rfl heard
    exact h.same.remove h.guarded.keyed h.solitary.keyed
  | evict maxIdle => exact h.same.evict h.guarded h.solitary maxIdle
  | claim other | clear other | join other | leave other | send other =>
    obtain rfl := Operation.eq_of_concerns rfl heard
    exact h.same.within rfl
  | check | look => exact h.same
  | take id most => exact h.same.take id most
  | drop id => exact h.same.drop id
  | wait milliseconds =>
    exact h.same.perform (d := .wait milliseconds) h.same.room h.same.channel
  | count | find => cases heard

/-- Both let in the same, as far as the code hears of it. -/
theorem admitted (h : Mirrored code guests r p)
    (heard : op.concerns code guests (r.operate op).1 = true) :
    p.admitted? op = r.admitted? op := by
  cases op with
  | join other role id =>
    obtain rfl := Operation.eq_of_concerns rfl heard
    rw [admitted?, admitted?, h.same.isLive]
  | _ => rfl

/-- After an operation that concerns the code, the second relay is still like the first. -/
theorem common (h : Mirrored code guests r p)
    (admits : ∀ other id, r.admitted? op = some (other, id) → (id ∈ guests ↔ other = code))
    (heard : op.concerns code guests (r.operate op).1 = true) :
    Mirrored code guests (r.operate op).2 (p.operate op).2 where
  guarded := h.guarded.after admits
  solitary := by
    refine h.solitary.after fun other id admitted => admits other id ?_
    rw [← h.admitted heard]
    exact admitted
  same := h.heard heard
  constant := by
    rw [operate_deed]
    obtain ⟨-, candidates, -⟩ := p.fixed_perform op.deed
    rw [candidates]
    exact h.constant

/-- So it is after an operation that does not, of which the second relay is not asked. -/
theorem apart (h : Mirrored code guests r p)
    (admits : ∀ other id, r.admitted? op = some (other, id) → (id ∈ guests ↔ other = code))
    (apart : op.concerns code guests (r.operate op).1 = false) :
    Mirrored code guests (r.operate op).2 p where
  guarded := h.guarded.after admits
  solitary := h.solitary
  same := (h.guarded.unheard admits apart).trans h.same
  constant := h.constant

end Mirrored

/-! ## Runs -/

/-- **A room fares as if it were alone.** What a code sees of a run, and the state in which
the run leaves its room and its guests, are those of the run of what concerns it. -/
theorem transcript_solitary {ops : List Operation} (h : Mirrored code guests r p)
    (admits : ∀ other id, (other, id) ∈ r.admissions ops → (id ∈ guests ↔ other = code)) :
    p.transcript code guests (r.heard code guests ops) = r.transcript code guests ops ∧
    p.admissions (r.heard code guests ops) = (r.admissions ops).filter (·.1 == code) ∧
    SameFor code guests (r.run ops) (p.run (r.heard code guests ops)) := by
  induction ops generalizing r p with
  | nil => exact ⟨rfl, rfl, h.same⟩
  | cons op rest ih =>
    have now : ∀ other id, r.admitted? op = some (other, id) → (id ∈ guests ↔ other = code) := by
      intro other id admitted
      apply admits
      rw [admissions, admitted]
      exact List.mem_append_left _ List.mem_cons_self
    have later : ∀ other id, (other, id) ∈ (r.operate op).2.admissions rest →
        (id ∈ guests ↔ other = code) :=
      fun other id mem => admits other id (List.mem_append_right _ mem)
    have admitted : (r.admissions (op :: rest)).filter (·.1 == code) =
        (if op.concerns code guests (r.operate op).1 then (r.admitted? op).toList else []) ++
          ((r.operate op).2.admissions rest).filter (·.1 == code) := by
      rw [admissions, List.filter_append, filter_admitted]
    -- The second relay is asked with the first if the code hears of it, and else stands still.
    cases concerns : op.concerns code guests (r.operate op).1 with
    | false =>
      rw [admitted, concerns, heard, transcript_of_unheard concerns]
      exact ih (h.apart now concerns) later
    | true =>
      have answer := h.answer concerns
      have concerns' : op.concerns code guests (p.operate op).1 = true := by
        rw [← Operation.concerns_about, answer, Operation.concerns_about]
        exact concerns
      obtain ⟨answers, joined, same⟩ := ih (h.common now concerns) later
      have asked : r.heard code guests (op :: rest) =
          op :: (r.operate op).2.heard code guests rest := by
        rw [heard, transcript_of_heard concerns]
        rfl
      rw [asked]
      refine ⟨?_, ?_, same⟩
      · rw [transcript_of_heard concerns, transcript_of_heard concerns', answer, answers]
      · rw [admitted, concerns, admissions, h.admitted concerns, joined]
        rfl

/-- No connection that has joined the room of the code in a run joins another room in it. -/
def Confined (code : String) (r : Relay) (ops : List Operation) : Prop :=
  ∀ id ∈ r.guests code ops, ∀ other, (other, id) ∈ r.admissions ops → other = code

/-- Two relays without rooms mirror each other, if the guests' channels are alike. -/
theorem mirrored_opened (limits : Limits) (candidates : Nat → String) {lines lines' : Lines}
    (alike : ∀ id ∈ guests, lines.get id = lines'.get id) :
    Mirrored code guests (opened limits candidates lines) (opened limits (fun _ => code) lines') := by
  have guarded : ∀ candidates lines, (opened limits candidates lines).Guarded code guests := by
    intro candidates lines
    refine ⟨List.nodup_nil, ?_⟩
    rintro id other role ⟨s, found, -⟩
    cases found
  exact ⟨guarded .., guarded .., ⟨rfl, rfl, rfl, alike⟩, fun _ => rfl⟩

/-- A run beside the run in which only what concerns the code is asked. -/
theorem run_solitary {limits : Limits} {candidates : Nat → String} {lines : Lines}
    (lines' : Lines) {ops : List Operation} (fresh : r = opened limits candidates lines)
    (confined : r.Confined code ops) (guest : guests = r.guests code ops)
    (alike : ∀ id ∈ guests, lines.get id = lines'.get id)
    (alone : p = opened limits (fun _ => code) lines') :
    p.guests code (r.heard code guests ops) = guests ∧
    p.transcript code guests (r.heard code guests ops) = r.transcript code guests ops ∧
    SameFor code guests (r.run ops) (p.run (r.heard code guests ops)) := by
  have mirrored : Mirrored code guests r p := by
    rw [fresh, alone]
    exact mirrored_opened limits candidates alike
  have admits : ∀ other id, (other, id) ∈ r.admissions ops → (id ∈ guests ↔ other = code) := by
    rintro other id mem
    rw [guest]
    constructor
    · exact fun isGuest => confined id isGuest other mem
    · rintro rfl
      exact mem_guests.mpr mem
  obtain ⟨answers, joined, same⟩ := transcript_solitary mirrored admits
  have own : p.guests code (r.heard code guests ops) = r.guests code ops := by
    rw [Relay.guests, joined, List.filter_filter, Relay.guests]
    simp only [Bool.and_self]
  exact ⟨own.trans guest.symm, answers, same⟩

/-- **Rooms are isolated.** Take two runs from relays without rooms, with the same bounds but
candidates of their own, in which what concerns a code is asked alike: what names it, the
making of its rooms, time, sweeps, and the readers of its guests. If the guests join no other
room, and are the same connections at the start, then whatever else is asked, both runs have
the same guests, give the code the same answers, and leave it the same room, with everything
in it, and its guests the same channels, with all that was ever pushed on them. -/
theorem rooms_isolated (limits : Limits) (code : String) (candidates candidates' : Nat → String)
    (lines lines' : Lines) {r r' : Relay} (fresh : r = opened limits candidates lines)
    (fresh' : r' = opened limits candidates' lines') {ops ops' : List Operation}
    (confined : r.Confined code ops) (confined' : r'.Confined code ops')
    {guests guests' : List ConnId} (guest : guests = r.guests code ops)
    (guest' : guests' = r'.guests code ops')
    (alike : ∀ id ∈ guests ++ guests', lines.get id = lines'.get id)
    (asked : r.heard code guests ops = r'.heard code guests' ops') :
    guests = guests' ∧ r.transcript code guests ops = r'.transcript code guests' ops' ∧
    (r.run ops).find? code = (r'.run ops').find? code ∧
    ∀ id ∈ guests, (r.run ops).channel id = (r'.run ops').channel id := by
  obtain ⟨joined, answers, same⟩ := run_solitary lines fresh confined guest
    (fun _ _ => rfl) rfl
  obtain ⟨joined', answers', same'⟩ := run_solitary lines fresh' confined' guest'
    (fun id mem => (alike id (List.mem_append_right _ mem)).symm) rfl
  rw [← asked] at joined' answers' same'
  obtain rfl : guests = guests' := joined.symm.trans joined'
  have both := same.trans same'.symm
  exact ⟨rfl, answers.symm.trans answers', both.room, both.channel⟩

/-- Two guests meet in the one room there is. -/
def quiet : List Operation :=
  [.create "host", .join "room" .presenter ⟨0⟩, .send "room" .viewer ⟨.offer, .null, "video"⟩,
    .join "room" .viewer ⟨1⟩, .take ⟨1⟩ 2, .evict 5]

/-- They meet in the same way while a stranger has another room made, joins it, is spoken to
there and ends it. -/
def crowded : List Operation :=
  [.create "stranger", .join "den" .presenter ⟨2⟩, .create "host",
    .send "den" .presenter ⟨.answer, .null, "audio"⟩, .join "room" .presenter ⟨0⟩,
    .send "room" .viewer ⟨.offer, .null, "video"⟩, .count, .join "room" .viewer ⟨1⟩,
    .remove "den", .take ⟨1⟩ 2, .take ⟨2⟩ 1, .evict 5]

/-- A relay with three connections. -/
def meeting (candidates : Nat → String) : Relay :=
  opened ⟨4, 2⟩ candidates ⟨[(⟨0⟩, .fresh 4), (⟨1⟩, .fresh 4), (⟨2⟩, .fresh 1)]⟩

/-- It draws the code of the guests' room at once. -/
def calm : Relay := meeting fun _ => "room"

/-- It draws the code of the stranger's room first. -/
def busy : Relay := meeting fun n => if n = 0 then "den" else "room"

/-- In both runs the guests hear and are told the same, and their room is the same in the end. -/
theorem rooms_isolated_crowded :
    calm.Confined "room" quiet ∧ busy.Confined "room" crowded ∧
    calm.guests "room" quiet = [⟨0⟩, ⟨1⟩] ∧ busy.guests "room" crowded = [⟨0⟩, ⟨1⟩] ∧
    calm.heard "room" [⟨0⟩, ⟨1⟩] quiet = busy.heard "room" [⟨0⟩, ⟨1⟩] crowded ∧
    calm.transcript "room" [⟨0⟩, ⟨1⟩] quiet = busy.transcript "room" [⟨0⟩, ⟨1⟩] crowded ∧
    (calm.run quiet).find? "room" = (busy.run crowded).find? "room" ∧
    (calm.run quiet).channel ⟨1⟩ = (busy.run crowded).channel ⟨1⟩ := by
  have admissions : calm.admissions quiet = [("room", ⟨0⟩), ("room", ⟨1⟩)] := by
    decide +kernel
  have admissions' : busy.admissions crowded =
      [("den", ⟨2⟩), ("room", ⟨0⟩), ("room", ⟨1⟩)] := by
    decide +kernel
  have guests : calm.guests "room" quiet = [⟨0⟩, ⟨1⟩] := by
    rw [Relay.guests, admissions]
    decide
  have guests' : busy.guests "room" crowded = [⟨0⟩, ⟨1⟩] := by
    rw [Relay.guests, admissions']
    decide
  have confined : calm.Confined "room" quiet := by
    intro id mem other joined
    rw [admissions] at joined
    have all : ∀ pair ∈ [("room", (⟨0⟩ : ConnId)), ("room", ⟨1⟩)], pair.1 = "room" := by decide
    exact all (other, id) joined
  have confined' : busy.Confined "room" crowded := by
    intro id mem other joined
    rw [guests'] at mem
    rw [admissions'] at joined
    have all : ∀ pair ∈ [("den", (⟨2⟩ : ConnId)), ("room", ⟨0⟩), ("room", ⟨1⟩)],
        pair.2 ∈ [(⟨0⟩ : ConnId), ⟨1⟩] → pair.1 = "room" := by decide
    exact all (other, id) joined mem
  have asked : calm.heard "room" [⟨0⟩, ⟨1⟩] quiet = quiet := by rfl
  have asked' : busy.heard "room" [⟨0⟩, ⟨1⟩] crowded = quiet := by rfl
  obtain ⟨-, answers, room, channel⟩ := rooms_isolated ⟨4, 2⟩ "room" _ _ _ _ rfl rfl
    confined confined' guests.symm guests'.symm (fun _ _ => rfl) (asked.trans asked'.symm)
  exact ⟨confined, confined', guests, guests', asked.trans asked'.symm, answers, room,
    channel ⟨1⟩ (List.mem_cons_of_mem _ List.mem_cons_self)⟩

end Relay

end Rendezvous
