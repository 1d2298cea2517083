import Mathlib.Data.List.Nodup
import Rendezvous.Proofs.Session.Side
import Rendezvous.Proofs.Signaling.Deed

/-!
# What becomes of a room

No two live rooms have the same code (`keyed_run`), so what a deed makes of the room of a
code can be told by the code alone. There are four ways (`fate_perform`): nothing happens
to it, it begins, it ends, or one event of its session happens in it. A code is never
taken from one room and given to another at once.

The second half follows the slots. `of_seated_perform` is all that later modules use: a
connection in a slot was there before, or has just been put there.
-/

namespace Rendezvous

/-- A session keeps its code. -/
theorem Session.code_step (st : Stage) (ev : Event) :
    (st.step ev).session.code = st.session.code := by
  cases ev with
  | relay destination e =>
    show (st.session.send ..).2.1.code = _
    rw [send_session]
    exact (relay_spec ..).1
  | detach role id =>
    show (st.session.detach role id st.now).code = _
    unfold detach
    split
    · cases role <;> rfl
    · rfl
  | _ => rfl

namespace Relay

/-! ## Codes -/

/-- No two rooms have the same code. -/
def Keyed (rooms : List Session) : Prop := (rooms.map (·.code)).Nodup

theorem find?_eq_none_iff {rooms : List Session} {code : String} :
    rooms.find? (·.code == code) = none ↔ ∀ s ∈ rooms, s.code ≠ code := by
  simp only [List.find?_eq_none, beq_iff_eq, ne_eq]

/-- Where codes are unique, each room is found under its own. -/
theorem find?_of_mem {rooms : List Session} (keyed : Keyed rooms) {s : Session}
    (mem : s ∈ rooms) : rooms.find? (·.code == s.code) = some s := by
  cases found : rooms.find? (·.code == s.code) with
  | none => exact absurd rfl (find?_eq_none_iff.mp found s mem)
  | some x =>
    have matched := List.find?_some found
    have isRoom := List.mem_of_find?_eq_some found
    rw [List.inj_on_of_nodup_map keyed isRoom mem (beq_iff_eq.mp matched)]

/-- Of rooms with different codes, looking among some is looking among all, and then
whether what was found is one of them. -/
theorem find?_filter {rooms : List Session} (keyed : Keyed rooms) (p : Session → Bool)
    (code : String) :
    (rooms.filter p).find? (·.code == code)
      = (rooms.find? (·.code == code)).filter p := by
  have keyedSome : Keyed (rooms.filter p) := keyed.sublist (List.filter_sublist.map _)
  cases found : rooms.find? (·.code == code) with
  | none =>
    rw [Option.filter_none, find?_eq_none_iff]
    intro s mem
    exact find?_eq_none_iff.mp found s (List.mem_filter.mp mem).1
  | some s =>
    have isRoom := List.mem_of_find?_eq_some found
    have matched := List.find?_some found
    obtain rfl : s.code = code := beq_iff_eq.mp matched
    rw [Option.filter_some]
    split
    next chosen => exact find?_of_mem keyedSome (List.mem_filter.mpr ⟨isRoom, chosen⟩)
    next left =>
      -- Its code is the only one of its kind, so no other room can take its place.
      rw [find?_eq_none_iff]
      intro x mem same
      obtain ⟨isRoom', chosen⟩ := List.mem_filter.mp mem
      obtain rfl := List.inj_on_of_nodup_map keyed isRoom' isRoom same
      exact left chosen

variable {r r' : Relay}

/-- A candidate that was drawn is not empty and not the code of a live room. -/
theorem usable_of_draw {left drawn : Nat} {code : String} (h : (r.draw left drawn).1 = some code) :
    code.isEmpty = false ∧ r.find? code = none := by
  induction left generalizing drawn with
  | zero => cases h
  | succ left ih =>
    rw [draw] at h
    split at h
    next => exact ih h
    next usable =>
      rw [Bool.or_eq_true, not_or] at usable
      obtain rfl : r.candidates drawn = code := Option.some.inj h
      exact ⟨Bool.eq_false_iff.mpr usable.1, Option.not_isSome_iff_eq_none.mp usable.2⟩

/-- A room is made under a usable code and stands behind the others, or nothing is made. -/
theorem create_cases (r : Relay) (presenter : String) :
    (∃ fault, (r.create presenter).1 = .error fault ∧ (r.create presenter).2.rooms = r.rooms) ∨
    ∃ drawn, (r.create presenter).1 = .ok drawn ∧ drawn.isEmpty = false ∧ r.find? drawn = none ∧
      (r.create presenter).2.rooms = r.rooms ++ [.start drawn presenter r.limits r.now] := by
  unfold create
  split
  next => exact Or.inl ⟨_, rfl, rfl⟩
  next drawn n isDrawn =>
    have first : (r.draw maxDraws r.drawn).1 = some drawn := congrArg Prod.fst isDrawn
    obtain ⟨usable, absent⟩ := usable_of_draw first
    exact Or.inr ⟨drawn, rfl, usable, absent, rfl⟩

section
variable {r' : Relay} {made : Session} {code : String}

/-- A room that stands behind the others is found by a code that none of them has. -/
theorem find?_snoc_self (longer : r'.rooms = r.rooms ++ [made]) (absent : r.find? code = none)
    (named : made.code = code) : r'.find? code = some made := by
  have before : r.rooms.find? (·.code == code) = none := absent
  rw [find?, longer, List.find?_append, before, Option.none_or, List.find?_singleton, named,
    beq_self_eq_true, if_pos rfl]

theorem find?_snoc_ne (longer : r'.rooms = r.rooms ++ [made]) (other : made.code ≠ code) :
    r'.find? code = r.find? code := by
  rw [find?, longer, List.find?_append, List.find?_singleton, beq_false_of_ne other,
    if_neg Bool.false_ne_true, Option.or_none]
  rfl

end

/-- Putting a session back makes no code double. -/
theorem keyed_put (keyed : Keyed r.rooms) (s : Session) : Keyed (r.put s).rooms := by
  have same : (r.put s).rooms.map (·.code) = r.rooms.map (·.code) := by
    unfold put
    rw [List.map_map]
    refine List.map_congr_left fun old _ => ?_
    show (if (old.code == s.code) = true then s else old).code = old.code
    split
    next replaced => exact (beq_iff_eq.mp replaced).symm
    next => rfl
  rw [Keyed, same]
  exact keyed

/-- To put a room in its own place changes nothing. -/
theorem rooms_put_self (keyed : Keyed r.rooms) {code : String} {s : Session}
    (live : r.find? code = some s) : (r.put s).rooms = r.rooms := by
  have kept : r.rooms.map (fun old => if old.code == s.code then s else old)
      = r.rooms.map id := by
    refine List.map_congr_left fun old mem => ?_
    split
    next replaced =>
      have isRoom : s ∈ r.rooms := List.mem_of_find?_eq_some live
      exact List.inj_on_of_nodup_map keyed isRoom mem (beq_iff_eq.mp replaced).symm
    next => rfl
  rw [List.map_id] at kept
  exact kept

/-- A live room stands in one place among the others, of which none has its code. -/
theorem exists_rooms_eq (keyed : Keyed r.rooms) {code : String} {s : Session}
    (live : r.find? code = some s) :
    ∃ before after, r.rooms = before ++ s :: after ∧ ∀ x ∈ before ++ after, x.code ≠ code := by
  have isRoom : s ∈ r.rooms := List.mem_of_find?_eq_some live
  have named := code_of_find? live
  obtain ⟨before, after, rooms⟩ := List.append_of_mem isRoom
  refine ⟨before, after, rooms, fun x mem same => ?_⟩
  rw [Keyed, rooms, List.map_append, List.map_cons, List.nodup_append, List.nodup_cons] at keyed
  obtain ⟨-, ⟨notAfter, -⟩, notBefore⟩ := keyed
  have isCode : x.code = s.code := same.trans named.symm
  rcases List.mem_append.mp mem with earlier | later
  · exact notBefore _ (List.mem_map_of_mem earlier) _ List.mem_cons_self isCode
  · exact notAfter (isCode ▸ List.mem_map_of_mem later)

/-- A room that is put takes the place of the one with its code, and the others stay. -/
theorem rooms_put {before after : List Session} {s s' : Session}
    (rooms : r.rooms = before ++ s :: after) (others : ∀ x ∈ before ++ after, x.code ≠ s.code)
    (named : s'.code = s.code) : (r.put s').rooms = before ++ s' :: after := by
  have still : ∀ x ∈ before ++ after, (if x.code == s'.code then s' else x) = x := by
    intro x mem
    rw [if_neg]
    intro same
    exact others x mem ((beq_iff_eq.mp same).trans named)
  show r.rooms.map (fun old => if old.code == s'.code then s' else old) = _
  rw [rooms, List.map_append, List.map_cons, named, beq_self_eq_true, if_pos rfl, ← named,
    List.map_congr_left fun x mem => still x (List.mem_append_left _ mem),
    List.map_congr_left fun x mem => still x (List.mem_append_right _ mem), List.map_id',
    List.map_id']

/-- Without its code, a room is gone and the others stay. -/
theorem without_eq {before after : List Session} {s : Session}
    (rooms : r.rooms = before ++ s :: after) (others : ∀ x ∈ before ++ after, x.code ≠ s.code) :
    r.without s.code = before ++ after := by
  have kept : (before ++ after).filter (·.code != s.code) = before ++ after := by
    rw [List.filter_eq_self]
    intro x mem
    exact bne_iff_ne.mpr (others x mem)
  rw [List.filter_append] at kept
  rw [without, rooms, List.filter_append, List.filter_cons, bne_self_eq_false,
    if_neg Bool.false_ne_true, kept]

/-! ## Fates -/

/-- Creation leaves a code as it was, or makes the room of that code if there was none. -/
theorem find?_create (r : Relay) (presenter code : String) :
    (r.create presenter).2.find? code = r.find? code ∨
    (r.find? code = none ∧
      (r.create presenter).2.find? code = some (.start code presenter r.limits r.now)) := by
  rcases r.create_cases presenter with ⟨fault, -, rooms⟩ | ⟨drawn, -, -, absent, rooms⟩
  · apply Or.inl
    rw [find?, rooms]
    rfl
  · by_cases isNew : drawn = code
    · subst isNew
      exact Or.inr ⟨absent, find?_snoc_self rooms absent rfl⟩
    · exact Or.inl (find?_snoc_ne rooms isNew)

/-- Removal takes the room of one code. -/
theorem find?_remove (keyed : Keyed r.rooms) (removed code : String) :
    (r.remove removed).2.find? code = (r.find? code).filter (·.code != removed) := by
  unfold remove
  cases live : r.find? removed with
  | some s => exact find?_filter keyed ..
  | none =>
    -- No room of that code is there, so none is filtered out.
    show r.find? code = _
    cases found : r.find? code with
    | none => rfl
    | some s =>
      have differ : s.code ≠ removed :=
        find?_eq_none_iff.mp live s (List.mem_of_find?_eq_some found)
      rw [Option.filter_some, if_pos (bne_iff_ne.mpr differ)]

theorem find?_evict (keyed : Keyed r.rooms) (maxIdle : Nat) (code : String) :
    (r.evict maxIdle).2.find? code = (r.find? code).filter fun s => !r.isIdle maxIdle s :=
  find?_filter keyed ..

/-- What a deed makes of the room of a code. -/
inductive Fate (r : Relay) (d : Deed) (code : String) : Prop
  | untouched (same : (r.perform d).find? code = r.find? code)
  | begins {presenter : String} (isDeed : d = .create presenter) (absent : r.find? code = none)
    (made : (r.perform d).find? code = some (.start code presenter r.limits r.now))
  | ends {s : Session} (isDeed : d = .remove code ∨
      ∃ maxIdle, d = .evict maxIdle ∧ r.isIdle maxIdle s = true)
    (live : r.find? code = some s) (gone : (r.perform d).find? code = none)
  | moves {s : Session} {ev : Session.Event} (isDeed : d = .within code ev)
    (live : r.find? code = some s)
    (moved : (r.perform d).find? code
      = some (Session.Stage.step ⟨s, r.outlet, r.now⟩ ev).session)

/-- What happens inside a room happens to no other one. -/
theorem find?_within (r : Relay) (inside code : String) (ev : Session.Event) :
    (r.perform (.within inside ev)).find? code =
      if inside = code then
        (r.find? code).map fun s => (Session.Stage.step ⟨s, r.outlet, r.now⟩ ev).session
      else r.find? code := by
  cases live : r.find? inside with
  | none =>
    rw [perform_of_gone live]
    split
    next same => rw [← same, live]; rfl
    next => rfl
  | some s =>
    rw [perform_of_live live]
    show (r.put _).find? code = _
    rw [find?_put, Session.code_step, code_of_find? live]
    split
    next same => rw [← same, live]; rfl
    next => rfl

/-- **A room stays as it is, begins, ends, or has one event.** -/
theorem fate_perform (keyed : Keyed r.rooms) (d : Deed) (code : String) : r.Fate d code := by
  cases d with
  | create presenter =>
    rcases find?_create r presenter code with same | ⟨absent, made⟩
    · exact .untouched same
    · exact .begins rfl absent made
  | remove removed =>
    have found := find?_remove keyed removed code
    cases live : r.find? code with
    | none => exact .untouched (by rw [perform, found, live]; rfl)
    | some s =>
      rw [live, Option.filter_some] at found
      obtain rfl := code_of_find? live
      split at found
      next => exact .untouched (found.trans live.symm)
      next removedNow =>
        obtain rfl : s.code = removed := by
          rw [bne_iff_ne, not_not] at removedNow
          exact removedNow
        exact .ends (Or.inl rfl) live found
  | evict maxIdle =>
    have found := find?_evict keyed maxIdle code
    cases live : r.find? code with
    | none => exact .untouched (by rw [perform, found, live]; rfl)
    | some s =>
      rw [live, Option.filter_some] at found
      split at found
      next => exact .untouched (found.trans live.symm)
      next expired =>
        rw [Bool.not_eq_true, Bool.not_eq_false'] at expired
        exact .ends (Or.inr ⟨maxIdle, rfl, expired⟩) live found
  | within inside ev =>
    have found := find?_within r inside code ev
    split at found
    next same =>
      subst same
      cases live : r.find? inside with
      | none => exact .untouched (by rw [found, live]; rfl)
      | some s =>
        rw [live] at found
        exact .moves rfl live found
    next => exact .untouched found
  | nothing | tell | connect | take | drop | wait => exact .untouched rfl

/-- No deed makes a code double. -/
theorem keyed_perform (keyed : Keyed r.rooms) (d : Deed) : Keyed (r.perform d).rooms := by
  cases d with
  | create presenter =>
    show Keyed (r.create presenter).2.rooms
    rcases r.create_cases presenter with ⟨fault, -, rooms⟩ | ⟨drawn, -, -, absent, rooms⟩
    · rw [rooms]
      exact keyed
    · rw [rooms, Keyed, List.map_append, List.nodup_append]
      refine ⟨keyed, List.nodup_singleton _, fun a old b new => ?_⟩
      obtain ⟨s, isRoom, rfl⟩ := List.mem_map.mp old
      rw [List.map_singleton, List.mem_singleton] at new
      subst new
      exact find?_eq_none_iff.mp absent s isRoom
  | remove code =>
    show Keyed (r.remove code).2.rooms
    unfold remove
    split
    · exact keyed
    · exact keyed.sublist (List.filter_sublist.map _)
  | evict maxIdle => exact keyed.sublist (List.filter_sublist.map _)
  | within code ev =>
    cases live : r.find? code with
    | none =>
      rw [perform_of_gone live]
      exact keyed
    | some s =>
      rw [perform_of_live live]
      exact keyed_put keyed _
  | nothing | tell | connect | take | drop | wait => exact keyed

/-! ## Slots -/

/-- A connection sits in the slot of a role of the live room of a code. -/
def Seated (r : Relay) (id : ConnId) (code : String) (role : Role) : Prop :=
  ∃ s, r.find? code = some s ∧ (s.slot role).connection = some id

theorem Alike.seated (h : r.Alike r') {id : ConnId} {code : String} {role : Role} :
    r.Seated id code role ↔ r'.Seated id code role := by
  unfold Seated
  rw [h.find?]

section
variable {id : ConnId} {code : String} {role : Role}

theorem seated_iff : r.Seated id code role ↔ (r.find? code).any (·.holds role id) = true := by
  cases live : r.find? code with
  | none => simp [Seated, live]
  | some s => simp [Seated, live, Session.holds]

instance (r : Relay) (id : ConnId) (code : String) (role : Role) :
    Decidable (r.Seated id code role) := decidable_of_iff _ seated_iff.symm

/-- A slot holds one connection. -/
theorem Seated.eq {other : ConnId} (seated : r.Seated id code role)
    (taken : r.Seated other code role) : other = id := by
  obtain ⟨s, live, held⟩ := seated
  obtain ⟨x, live', held'⟩ := taken
  obtain rfl : s = x := Option.some.inj (live.symm.trans live')
  exact Option.some.inj (held'.symm.trans held)

/-- What an event of its session makes of the slot of a live room. -/
theorem seated_within (ev : Session.Event) :
    (r.perform (.within code ev)).Seated id code role ↔
      ∃ s, r.find? code = some s ∧ (s.side role).connectionAfter role ev = some id := by
  unfold Seated
  rw [find?_within, if_pos rfl]
  cases r.find? code with
  | none => simp
  | some s =>
    simp only [Option.map_some, Option.some.injEq, exists_eq_left']
    rw [Session.slot, Session.side_step, Side.connection_step]

/-- **Who sits in a slot sat there before, or has just been put there.** -/
theorem of_seated_perform (keyed : Keyed r.rooms) {d : Deed}
    (seated : (r.perform d).Seated id code role) :
    d = .within code (.attach role id) ∨ r.Seated id code role := by
  obtain ⟨s', found, held⟩ := seated
  cases fate_perform keyed d code with
  | untouched same => exact Or.inr ⟨s', same ▸ found, held⟩
  | begins isDeed absent made =>
    rw [made] at found
    obtain rfl := Option.some.inj found
    cases role <;> cases held
  | ends isDeed live gone =>
    rw [gone] at found
    cases found
  | @moves s ev isDeed live moved =>
    -- A room that was there before changes by one event, and of those only an attachment seats
    -- anyone.
    subst isDeed
    obtain ⟨x, live', after⟩ := (seated_within ev).mp ⟨s', found, held⟩
    obtain rfl : s = x := Option.some.inj (live.symm.trans live')
    have stays : (s.side role).slot.connection = some id → r.Seated id code role :=
      fun held => ⟨s, live, held⟩
    cases ev with
    | attach r' other =>
      rw [Side.connectionAfter] at after
      split at after
      next mine =>
        obtain rfl := mine
        obtain rfl := Option.some.inj after
        exact Or.inl rfl
      next => exact Or.inr (stays after)
    | detach r' other | clear =>
      rw [Side.connectionAfter] at after
      split at after
      · cases after
      · exact Or.inr (stays after)
    | close reason => cases after
    | relay | claim | connect | take | drop | wait => exact Or.inr (stays after)

/-- Whoever is detached from a slot does not sit in it. -/
theorem not_seated_detach : ¬ (r.perform (.within code (.detach role id))).Seated id code role := by
  rw [seated_within]
  rintro ⟨s, -, after⟩
  rw [Side.connectionAfter] at after
  split at after
  next => cases after
  next others => exact others ⟨rfl, after⟩

theorem eq_of_seated_attach {other : ConnId}
    (seated : (r.perform (.within code (.attach role other))).Seated id code role) :
    id = other := by
  obtain ⟨s, -, after⟩ := (seated_within _).mp seated
  rw [Side.connectionAfter, if_pos rfl] at after
  exact (Option.some.inj after).symm

/-- To take a connection out of a slot in which it does not sit changes no room. -/
theorem rooms_detach (keyed : Keyed r.rooms) (away : ¬ r.Seated id code role) :
    (r.perform (.within code (.detach role id))).rooms = r.rooms := by
  cases live : r.find? code with
  | none => rw [perform_of_gone live]
  | some s =>
    have still : s.detach role id r.now = s := by
      unfold Session.detach Session.holds
      rw [if_neg]
      intro held
      exact away ⟨s, live, eq_of_beq held⟩
    rw [perform_of_live live]
    show (r.put (s.detach role id r.now)).rooms = r.rooms
    rw [still]
    exact rooms_put_self keyed live

end

end Relay

namespace Signaling.World

/-- No step of the world makes a code double. -/
theorem keyed_step {w : World} (keyed : Relay.Keyed w.relay.rooms) (ev : Event) :
    Relay.Keyed (w.step ev).relay.rooms := by
  obtain ⟨d, -, alike⟩ := w.turn_step ev
  rw [alike.rooms]
  exact Relay.keyed_perform keyed d

/-- No two live rooms ever have the same code. -/
theorem keyed_run (limits : Limits) (candidates : Nat → String) (events : List Event) :
    Relay.Keyed ((start limits candidates).run events).relay.rooms := by
  induction events using List.reverseRecOn with
  | nil => exact List.nodup_nil
  | append_singleton events ev ih =>
    rw [run_snoc]
    exact keyed_step ih ev

end Signaling.World

end Rendezvous
