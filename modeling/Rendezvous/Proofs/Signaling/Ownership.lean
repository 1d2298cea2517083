import Rendezvous.Proofs.Signaling.Fate

/-!
# Who owns a slot

A connection that is served gets into a slot in one way only: its call joins. So as long
as each connection is given to one call and to nothing else (`Exclusive`), whoever sits in
a slot is the connection of a call that has joined there and not left (`Tenanted`), and
nobody sits twice. A connection that has lost its slot never gets back into one, since its
call does not join again (`ousted_run`); so its exit finds nothing to change.
-/

namespace Rendezvous.Signaling

namespace Call

/-- The call has joined as a role of a room and has not left it. -/
def IsIn (c : Call) (code : String) (role : Role) : Prop :=
  c.phase = .relaying code role ∨ c.phase = .leaving code role

variable {c : Call} {code : String} {role : Role}

theorem IsIn.unique {code' : String} {role' : Role} (h : c.IsIn code role)
    (h' : c.IsIn code' role') : code = code' ∧ role = role' := by
  rcases h with h | h <;> rcases h' with h' | h' <;> rw [h] at h' <;> cases h' <;> exact ⟨rfl, rfl⟩

/-- A call that has joined and does not leave now is still in. -/
theorem Move.isIn {r : Relay} {c' : Call} {d : Deed} (move : c.Move r d c')
    (isIn : c.IsIn code role)
    (stays : d ≠ .within code (.detach role c.connection)) : c'.IsIn code role := by
  cases move with
  | joins | refused | hangsUp | closes => rcases isIn with h | h <;> cases h
  | relays | rests => exact isIn
  | stops =>
    rcases isIn with h | h <;> cases h
    exact Or.inr rfl
  | leaves =>
    rcases isIn with h | h <;> cases h
    exact absurd rfl stays

/-- A call that has joined or gone never waits to join again. -/
theorem Move.joined {r : Relay} {c' : Call} {d : Deed} (move : c.Move r d c')
    (joined : c.phase ≠ .awaiting) : c'.phase ≠ .awaiting := by
  cases move with
  | joins | refused | hangsUp => exact absurd rfl joined
  | relays | rests => exact joined
  | stops | leaves | closes => exact Phase.noConfusion

end Call

namespace World

/-- Every connection is given to one call at most, and to nothing else. -/
structure Exclusive (events : List Event) : Prop where
  once : (events.filterMap Event.served?).Nodup
  alone : ∀ code role id, Event.join code role id ∉ events

/-! ## Calls and their connections -/

theorem served?_of_deed? {ev : Event} {d : Deed} (isDeed : ev.deed? = some d) :
    ev.served? = none := by
  cases ev <;> first | rfl | cases isDeed

theorem served?_of_call? {ev : Event} {i : Nat} (isCall : ev.call? = some i) :
    ev.served? = none := by
  cases ev <;> first | rfl | cases isCall

/-- A call keeps its connection; a new one is that of the connection served. -/
theorem connections_step (w : World) (ev : Event) :
    (w.step ev).calls.map (·.connection) = w.calls.map (·.connection) ++ ev.served?.toList := by
  obtain ⟨d, turn, -⟩ := w.turn_step ev
  cases turn with
  | outside isDeed calls => rw [calls, served?_of_deed? isDeed, Option.toList_none, List.append_nil]
  | begins isServe quiet calls =>
    rw [calls, isServe, List.map_append]
    rfl
  | @moves i c c' isCall called move calls =>
    rw [calls, served?_of_call? isCall, Option.toList_none, List.append_nil, List.map_set]
    have same : (w.calls.map (·.connection))[i]? = some c'.connection := by
      rw [List.getElem?_map, called, move.connection]
      rfl
    obtain ⟨inside, at_i⟩ := List.getElem?_eq_some_iff.mp same
    rw [← at_i, List.set_getElem_self]
  | idles isCall uncalled quiet calls =>
    rw [calls, served?_of_call? isCall, Option.toList_none, List.append_nil]

/-- There is one call for each connection that was served, in order. -/
theorem connections_run (limits : Limits) (candidates : Nat → String) (events : List Event) :
    ((start limits candidates).run events).calls.map (·.connection)
      = events.filterMap Event.served? := by
  induction events using List.reverseRecOn with
  | nil => rfl
  | append_singleton events ev ih =>
    rw [run_snoc, connections_step, ih, List.filterMap_append]
    cases ev <;> rfl

/-- Only a call that has read nothing yet puts its connection into a slot. -/
theorem awaiting_of_attach {w : World} {ev : Event} {code : String} {role : Role} {id : ConnId}
    (turn : w.Turn ev (.within code (.attach role id))) (alone : ev ≠ .join code role id) :
    (⟨id, .awaiting⟩ : Call) ∈ w.calls := by
  cases turn with
  | outside isDeed calls =>
    cases ev with
    | join => cases isDeed; exact absurd rfl alone
    | _ => cases isDeed
  | begins isServe quiet calls => cases quiet
  | moves isCall called move calls =>
    cases move
    exact List.mem_of_getElem? called
  | idles isCall uncalled quiet calls => cases quiet

/-! ## Tenants -/

/-- Codes and calls are told apart, and whoever sits in a slot has joined there. -/
structure Tenanted (w : World) : Prop where
  keyed : Relay.Keyed w.relay.rooms
  distinct : (w.calls.map (·.connection)).Nodup
  tenant : ∀ {id code role}, w.relay.Seated id code role →
    ∃ c ∈ w.calls, c.connection = id ∧ c.IsIn code role

section
variable {w : World} {code : String} {role : Role}

theorem Tenanted.eq_of_connection (h : w.Tenanted) {c c' : Call} (mem : c ∈ w.calls)
    (mem' : c' ∈ w.calls) (same : c.connection = c'.connection) : c = c' :=
  List.inj_on_of_nodup_map h.distinct mem mem' same

/-- The call of a connection in a slot is in that room. -/
theorem Tenanted.isIn (h : w.Tenanted) {c : Call} (mem : c ∈ w.calls)
    (seated : w.relay.Seated c.connection code role) : c.IsIn code role := by
  obtain ⟨x, mem', same, isIn⟩ := h.tenant seated
  obtain rfl := h.eq_of_connection mem' mem same
  exact isIn

/-- Nobody sits twice. -/
theorem Tenanted.unique (h : w.Tenanted) {id : ConnId} {code' : String} {role' : Role}
    (seated : w.relay.Seated id code role) (seated' : w.relay.Seated id code' role') :
    code = code' ∧ role = role' := by
  obtain ⟨c, mem, rfl, isIn⟩ := h.tenant seated
  exact isIn.unique (h.isIn mem seated')

theorem mem_set_of_ne {α : Type} {l : List α} {i : Nat} {x y z : α} (at_i : l[i]? = some x)
    (mem : z ∈ l) (differ : z ≠ x) : z ∈ l.set i y := by
  obtain ⟨j, at_j⟩ := List.mem_iff_getElem?.mp mem
  have apart : i ≠ j := by
    rintro rfl
    exact differ (Option.some.inj (at_j.symm.trans at_i))
  exact List.mem_iff_getElem?.mpr ⟨j, (List.getElem?_set_ne apart).trans at_j⟩

/-- One event, and whoever sits in a slot has still joined there. -/
theorem tenanted_step (h : w.Tenanted) {ev : Event} (alone : ∀ code role id, ev ≠ .join code role id)
    (fresh : ∀ id, ev.served? = some id → id ∉ w.calls.map (·.connection)) :
    (w.step ev).Tenanted := by
  refine ⟨keyed_step h.keyed ev, ?_, ?_⟩
  · rw [connections_step]
    cases served : ev.served? with
    | none =>
      rw [Option.toList_none, List.append_nil]
      exact h.distinct
    | some id => exact List.nodup_append.mpr ⟨h.distinct, List.nodup_singleton id, by
        intro a mem b new same
        rw [Option.toList_some, List.mem_singleton] at new
        subst same new
        exact fresh _ served mem⟩
  · intro id code role seated
    obtain ⟨d, turn, alike⟩ := w.turn_step ev
    rw [alike.seated] at seated
    have before := Relay.of_seated_perform h.keyed seated
    cases turn with
    | outside isDeed calls =>
      rw [calls]
      refine h.tenant (before.resolve_left ?_)
      rintro rfl
      cases ev with
      | join => exact alone _ _ _ rfl
      | _ => cases isDeed
    | begins isServe quiet calls =>
      subst quiet
      obtain ⟨c, mem, rest⟩ := h.tenant (before.resolve_left (by simp))
      rw [calls]
      exact ⟨c, List.mem_append_left _ mem, rest⟩
    | idles isCall uncalled quiet calls =>
      subst quiet
      rw [calls]
      exact h.tenant (before.resolve_left (by simp))
    | @moves i c c' isCall called move calls =>
      have inside : i < w.calls.length := (List.getElem?_eq_some_iff.mp called).1
      rw [calls]
      rcases before with rfl | before
      · -- It has just been put there, so it is the call itself that has joined.
        cases move
        exact ⟨_, List.mem_set inside _, rfl, Or.inl rfl⟩
      · obtain ⟨x, mem, same, isIn⟩ := h.tenant before
        by_cases mine : x = c
        · subst mine
          refine ⟨c', List.mem_set inside c', move.connection.trans same, move.isIn isIn ?_⟩
          rintro rfl
          rw [same] at seated
          exact Relay.not_seated_detach seated
        · exact ⟨x, mem_set_of_ne called mem mine, same, isIn⟩

end

/-! ## Runs in which connections are not shared -/

/-- What shares no connection in the end did not do so before. -/
theorem Exclusive.earlier {earlier events : List Event} (h : Exclusive events)
    (isPrefix : earlier <+: events) : Exclusive earlier where
  once := h.once.sublist (isPrefix.sublist.filterMap _)
  alone code role id mem := h.alone code role id (isPrefix.subset mem)

theorem Exclusive.no_join {events : List Event} {ev : Event} (h : Exclusive (events ++ [ev]))
    (code : String) (role : Role) (id : ConnId) : ev ≠ .join code role id := by
  rintro rfl
  exact h.alone code role id (by simp)

/-- A connection that is served now has not been served before. -/
theorem Exclusive.fresh {events : List Event} {ev : Event} (h : Exclusive (events ++ [ev]))
    (limits : Limits) (candidates : Nat → String) (id : ConnId) (served : ev.served? = some id) :
    id ∉ ((start limits candidates).run events).calls.map (·.connection) := by
  intro mem
  rw [connections_run] at mem
  have once := h.once
  rw [List.filterMap_append, List.filterMap_cons_some served] at once
  exact (List.nodup_append.mp once).2.2 id mem id List.mem_cons_self rfl

/-- It is so in every run in which no connection is shared. -/
theorem tenanted_run (limits : Limits) (candidates : Nat → String) {events : List Event}
    (exclusive : Exclusive events) : ((start limits candidates).run events).Tenanted := by
  induction events using List.reverseRecOn with
  | nil => exact ⟨List.nodup_nil, List.nodup_nil, fun ⟨_, found, _⟩ => by cases found⟩
  | append_singleton events ev ih =>
    have before := ih (exclusive.earlier (List.prefix_append ..))
    rw [run_snoc]
    exact tenanted_step before exclusive.no_join (exclusive.fresh limits candidates)

/-! ## After a slot was lost -/

/-- The call has joined, and its connection sits in no slot. -/
def Ousted (w : World) (i : Nat) : Prop :=
  ∃ c, w.calls[i]? = some c ∧ c.phase ≠ .awaiting ∧
    ∀ code role, ¬ w.relay.Seated c.connection code role

/-- The call has joined and not left, and a newer connection sits in its slot. -/
def Superseded (w : World) (i : Nat) : Prop :=
  ∃ c code role newer, w.calls[i]? = some c ∧ c.IsIn code role ∧
    w.relay.Seated newer code role ∧ newer ≠ c.connection

section
variable {w : World} {i : Nat}

/-- A superseded call has joined and sits nowhere. -/
theorem Tenanted.ousted (h : w.Tenanted) (superseded : w.Superseded i) : w.Ousted i := by
  obtain ⟨c, code, role, newer, called, isIn, taken, differ⟩ := superseded
  refine ⟨c, called, ?_, fun code' role' seated => ?_⟩
  · rcases isIn with phase | phase <;> rw [phase] <;> exact Phase.noConfusion
  · -- It could sit in its own slot only, and there the newer one sits.
    have isIn' := h.isIn (List.mem_of_getElem? called) seated
    obtain ⟨rfl, rfl⟩ := isIn.unique isIn'
    exact differ (seated.eq taken)

/-- Who has lost its slot gets into none with the next event. -/
theorem ousted_step (h : w.Tenanted) {ev : Event} (alone : ∀ code role id, ev ≠ .join code role id)
    (ousted : w.Ousted i) : (w.step ev).Ousted i := by
  obtain ⟨c, called, joined, away⟩ := ousted
  have mem : c ∈ w.calls := List.mem_of_getElem? called
  obtain ⟨d, turn, alike⟩ := w.turn_step ev
  have still : ∀ code role, ¬ (w.step ev).relay.Seated c.connection code role := by
    intro code role seated
    rw [alike.seated] at seated
    rcases Relay.of_seated_perform h.keyed seated with rfl | before
    · have same := h.eq_of_connection mem (awaiting_of_attach turn (alone _ _ _)) rfl
      exact joined (congrArg Call.phase same)
    · exact away code role before
  obtain ⟨c', called', moved⟩ := call_of_step called ev
  have kept : c'.connection = c.connection ∧ c'.phase ≠ .awaiting := by
    rcases moved with rfl | ⟨next, rfl⟩ | rfl
    · exact ⟨rfl, joined⟩
    · obtain ⟨_, move, -⟩ := c.move_read w.relay next
      exact ⟨move.connection, move.joined joined⟩
    · obtain ⟨_, move, -⟩ := c.move_finish w.relay
      exact ⟨move.connection, move.joined joined⟩
  exact ⟨c', called', kept.2, kept.1.symm ▸ still⟩

/-- When a call that has lost its slot ends its reading, or takes a step after that, it
changes no room. -/
theorem rooms_exit (h : w.Tenanted) (ousted : w.Ousted i) {ev : Event} (isCall : ev.call? = some i)
    (ends : ∀ c, (w.step ev).calls[i]? = some c → c.isReading = false) :
    (w.step ev).relay.rooms = w.relay.rooms := by
  obtain ⟨c, called, joined, away⟩ := ousted
  obtain ⟨d, turn, alike⟩ := w.turn_step ev
  rw [alike.rooms]
  cases turn with
  | outside isDeed calls => cases ev <;> cases isCall <;> cases isDeed
  | begins isServe quiet calls => rw [quiet]; rfl
  | idles isCall' uncalled quiet calls => rw [quiet]; rfl
  | @moves j x c' isCall' called' move calls =>
    obtain rfl : i = j := Option.some.inj (isCall.symm.trans isCall')
    obtain rfl : c = x := Option.some.inj (called.symm.trans called')
    have stopped : c'.isReading = false := by
      refine ends c' ?_
      rw [calls]
      exact List.getElem?_set_self (List.getElem?_eq_some_iff.mp called).1
    cases move with
    | joins | refused | hangsUp => exact absurd rfl joined
    | relays => cases stopped
    -- It leaves a slot that is not its own any more.
    | leaves => exact Relay.rooms_detach h.keyed (away _ _)
    | stops | closes | rests => rfl

end

/-- A call that was ousted stays so, whatever happens. -/
theorem ousted_run {limits : Limits} {candidates : Nat → String} {before later : List Event}
    (exclusive : Exclusive (before ++ later)) {i : Nat}
    (ousted : ((start limits candidates).run before).Ousted i) :
    ((start limits candidates).run (before ++ later)).Ousted i := by
  induction later using List.reverseRecOn with
  | nil =>
    rw [List.append_nil]
    exact ousted
  | append_singleton later ev ih =>
    rw [← List.append_assoc] at exclusive ⊢
    have earlier := exclusive.earlier (List.prefix_append (before ++ later) [ev])
    rw [run_snoc]
    exact ousted_step (tenanted_run limits candidates earlier) exclusive.no_join (ih earlier)

/-- **Slots are owned.** If no connection is shared, then after every run each connection
sits in one slot at most; it sits there only if its call has joined as that role of that
room and not left; a connection whose call is over sits nowhere; and once a newer
connection has taken the slot of a call, nothing with which the call ends changes a room. -/
theorem slots_owned (limits : Limits) (candidates : Nat → String) {events : List Event}
    (exclusive : Exclusive events) {w : World} (reached : w = (start limits candidates).run events) :
    (∀ id code role code' role', w.relay.Seated id code role → w.relay.Seated id code' role' →
      code = code' ∧ role = role') ∧
    (∀ id code role, w.relay.Seated id code role →
      ∃! c, c ∈ w.calls ∧ c.connection = id ∧ c.IsIn code role) ∧
    (∀ c ∈ w.calls, c.isDone = true → ∀ code role, ¬ w.relay.Seated c.connection code role) ∧
    (∀ before later i, events = before ++ later →
      ((start limits candidates).run before).Superseded i → ∀ ev, ev.call? = some i →
      (∀ c, (w.step ev).calls[i]? = some c → c.isReading = false) →
      (w.step ev).relay.rooms = w.relay.rooms) := by
  have tenanted : w.Tenanted := reached ▸ tenanted_run limits candidates exclusive
  refine ⟨fun _ _ _ _ _ => tenanted.unique, fun id code role seated => ?_,
    fun c mem isDone code role seated => ?_, ?_⟩
  · obtain ⟨c, mem, same, isIn⟩ := tenanted.tenant seated
    refine ⟨c, ⟨mem, same, isIn⟩, fun x hx => ?_⟩
    exact tenanted.eq_of_connection hx.1 mem (hx.2.1.trans same.symm)
  · have ended : c.phase = .done := eq_of_beq isDone
    rcases tenanted.isIn mem seated with phase | phase <;> rw [phase] at ended <;> cases ended
  · rintro before later i rfl superseded ev isCall ends
    -- Superseded at one point, it never comes back, because no connection is served twice.
    have ousted := (tenanted_run limits candidates
      (exclusive.earlier (List.prefix_append ..))).ousted superseded
    have stillOusted := ousted_run exclusive ousted
    rw [← reached] at stillOusted
    exact rooms_exit tenanted stillOusted isCall ends

/-- A host and a guest join a room, and then the host joins it again on a second
connection. -/
def rejoining : List Event :=
  let host : Option Inbound := some (.text "\x7b\"roomCode\":\"room\",\"role\":\"presenter\"\x7d")
  let guest : Option Inbound := some (.text "\x7b\"roomCode\":\"room\",\"role\":\"viewer\"\x7d")
  [.create "host", .connect 8, .connect 8, .connect 8, .serve ⟨0⟩, .serve ⟨1⟩, .serve ⟨2⟩,
    .read 0 host, .read 2 guest, .read 1 host]

theorem exclusive_rejoining : Exclusive rejoining where
  once := by decide
  alone code role id mem := by simp [rejoining] at mem

/-- The host's first call has been superseded by the second. -/
theorem superseded_rejoining :
    ((start ⟨4, 2⟩ fun _ => "room").run rejoining).Superseded 0 :=
  ⟨⟨⟨0⟩, .relaying "room" .presenter⟩, "room", .presenter, ⟨1⟩, rfl, Or.inl rfl, ⟨_, rfl, rfl⟩,
    by decide⟩

/-- Its exit changes no room. -/
theorem slots_owned_rejoining :
    let w := (start ⟨4, 2⟩ fun _ => "room").run rejoining
    Exclusive rejoining ∧ w.relay.Seated ⟨1⟩ "room" .presenter ∧
    (∃! c, c ∈ w.calls ∧ c.connection = ⟨1⟩ ∧ c.IsIn "room" .presenter) ∧
    w.Superseded 0 ∧ (w.step (.read 0 none)).relay.rooms = w.relay.rooms := by
  obtain ⟨-, owned, -, exits⟩ := slots_owned ⟨4, 2⟩ (fun _ => "room") exclusive_rejoining rfl
  have seated : ((start ⟨4, 2⟩ fun _ => "room").run rejoining).relay.Seated ⟨1⟩ "room" .presenter :=
    ⟨_, rfl, rfl⟩
  refine ⟨exclusive_rejoining, seated, owned _ _ _ seated, superseded_rejoining,
    exits rejoining [] 0 (List.append_nil _).symm superseded_rejoining (.read 0 none) rfl ?_⟩
  intro c called
  cases called
  rfl

end World

end Rendezvous.Signaling
