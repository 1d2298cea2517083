import Rendezvous.Http.Api
import Rendezvous.Proofs.Session.Form
import Rendezvous.Proofs.Signaling.Succession

/-!
# Ending rooms while others act

A request to end a room looks at the room first and removes it in a step of its own. Here
such requests take their two steps one at a time, any number of them, among all that happens
to the relay and its calls (`Desk`). With nobody in between the steps come to `endRoom`
(`endRoom_eq`).

The removal goes by the code alone. By then the room that was looked at may be gone and its
code given away again, so what is removed is a room of the user exactly if the room has
lasted since the look, or was begun since for the same user (`ends_own_room_iff`).
-/

namespace Rendezvous

namespace Session

/-- A room keeps its presenter. -/
theorem Becomes.presenter {s s' : Session} (h : s.Becomes s') :
    (s'.slot .presenter).identity = (s.slot .presenter).identity := by
  induction h with
  | refl => rfl
  | tail _ h ih =>
    obtain ⟨o, now, ev, rfl⟩ := h
    exact (presenter_run ⟨_, o, now⟩ [ev]).trans ih

theorem presenter_start (code presenter : String) (limits : Limits) (now : Instant) :
    ((start code presenter limits now).slot .presenter).identity = some presenter := rfl

end Session

namespace Signaling.World

/-- A room has been begun with one of some events, for this presenter, and has become another
state since. -/
def BegunFor (w : World) (presenter code : String) (events : List Event) (s : Session) : Prop :=
  ∃ earlier ev rest limits now, events = earlier ++ ev :: rest ∧
    (w.run earlier).relay.find? code = none ∧
    (w.run (earlier ++ [ev])).relay.find? code = some (.start code presenter limits now) ∧
    (Session.start code presenter limits now).Becomes s

theorem BegunFor.presenter {w : World} {presenter code : String} {events : List Event}
    {s : Session} (begun : w.BegunFor presenter code events s) :
    (s.slot .presenter).identity = some presenter := by
  obtain ⟨earlier, ev, rest, limits, now, -, -, -, became⟩ := begun
  rw [became.presenter, Session.presenter_start]

theorem BegunSince.exists_begunFor {w : World} {code : String} {events : List Event}
    {s : Session} (begun : w.BegunSince code events s) :
    ∃ presenter, w.BegunFor presenter code events s := by
  obtain ⟨earlier, ev, rest, presenter, limits, now, split, absent, made, became⟩ := begun
  exact ⟨presenter, earlier, ev, rest, limits, now, split, absent, made, became⟩

end Signaling.World

namespace Http

open Signaling

/-- Only its presenter may end a room. -/
theorem presenter_of_mayEnd {r : Relay} {code user : String} (may : mayEnd r code user = true) :
    ∃ s, r.find? code = some s ∧ (s.slot .presenter).identity = some user := by
  unfold mayEnd at may
  cases live : r.find? code with
  | none =>
    rw [live] at may
    cases may
  | some s =>
    rw [live] at may
    refine ⟨s, rfl, ?_⟩
    have isRole : s.roleOf? user = some .presenter := by simpa using may
    have holds := List.find?_some isRole
    simpa using holds

/-! ## Requests step by step -/

/-- How far a request to end a room has come. -/
inductive Ending.Phase where
  | looking
  | removing
  | answered (response : Response)

/-- A request to end the room of a code, made by a user. -/
structure Ending where
  code : String
  user : String
  phase : Ending.Phase

/-- The next step of a request. -/
def Ending.step (e : Ending) (r : Relay) : Ending × Relay :=
  match e.phase with
  | .looking =>
    if mayEnd r e.code e.user then ({ e with phase := .removing }, r)
    else ({ e with phase := .answered (.ofFault (.roomNotFound e.code)) }, r)
  | .removing =>
    match r.remove e.code with
    | (true, r) => ({ e with phase := .answered { status := 204 } }, r)
    | (false, r) => ({ e with phase := .answered (.ofFault (.roomNotFound e.code)) }, r)
  | .answered _ => (e, r)

/-- Both steps in a row answer as `endRoom` does, and do the same to the relay. -/
theorem endRoom_eq (r : Relay) (code user : String) :
    let looked := Ending.step ⟨code, user, .looking⟩ r
    looked.1.step looked.2 =
      (⟨code, user, .answered (endRoom r code user).1⟩, (endRoom r code user).2) := by
  unfold endRoom Ending.step
  by_cases may : mayEnd r code user = true
  · simp only [may, if_true]
    cases r.remove code with
    | mk removed r' => cases removed <;> rfl
  · simp only [may]
    rfl

/-- The relay with its calls, and the requests to end rooms that have come in. -/
structure Desk where
  world : World
  endings : List Ending

namespace Desk

/-- What can happen: something to the relay or to a call, a request to end a room comes in, or
one of these takes its next step. -/
inductive Event where
  | other (ev : World.Event)
  | ask (code user : String)
  | proceed (i : Nat)

/-- Nothing has come in yet. -/
def start (limits : Limits) (candidates : Nat → String) : Desk := ⟨.start limits candidates, []⟩

/-- What an event makes of a desk. -/
def step (d : Desk) : Event → Desk
  | .other ev => { d with world := d.world.step ev }
  | .ask code user => { d with endings := d.endings ++ [⟨code, user, .looking⟩] }
  | .proceed i =>
    match d.endings[i]? with
    | some e => ⟨{ d.world with relay := (e.step d.world.relay).2 },
        d.endings.set i (e.step d.world.relay).1⟩
    | none => d

/-- What a list of events makes of a desk. -/
def run (d : Desk) (events : List Event) : Desk := events.foldl step d

theorem run_append (d : Desk) (before after : List Event) :
    d.run (before ++ after) = (d.run before).run after := List.foldl_append ..

theorem run_snoc (d : Desk) (events : List Event) (ev : Event) :
    d.run (events ++ [ev]) = (d.run events).step ev := run_append ..

/-- An ending goes on, and the world sees what it does to the relay. -/
theorem step_proceed {d : Desk} {i : Nat} {e : Ending} (asked : d.endings[i]? = some e) :
    d.step (.proceed i) = ⟨{ d.world with relay := (e.step d.world.relay).2 },
      d.endings.set i (e.step d.world.relay).1⟩ := by
  rw [step, asked]

/-- What the world has of an event. A look is nothing to it, a removal is one like any other. -/
def felt (d : Desk) : Event → List World.Event
  | .other ev => [ev]
  | .ask .. => []
  | .proceed i =>
    match d.endings[i]? with
    | some ⟨code, _, .removing⟩ => [.remove code]
    | _ => []

/-- What the world has of a list of events. -/
def feltIn (d : Desk) : List Event → List World.Event
  | [] => []
  | ev :: rest => d.felt ev ++ (d.step ev).feltIn rest

/-- The world of the desk goes by the events that it feels. -/
theorem world_step (d : Desk) (ev : Event) : (d.step ev).world = d.world.run (d.felt ev) := by
  cases ev with
  | other ev => rfl
  | ask code user => rfl
  | proceed i =>
    cases asked : d.endings[i]? with
    | none => simp [step, felt, asked]
    | some e =>
      obtain ⟨code, user, phase⟩ := e
      rw [step_proceed asked, felt, asked]
      cases phase with
      | looking =>
        unfold Ending.step
        dsimp only
        split <;> rfl
      | removing =>
        -- Only the second step of an ending does anything to the relay, and the world feels a
        -- removal.
        show World.mk (Ending.step ⟨code, user, .removing⟩ d.world.relay).2 _ =
          d.world.onRelay fun r => (r.remove code).2
        unfold Ending.step
        dsimp only
        cases removed : d.world.relay.remove code with
        | mk was r => cases was <;> simp [World.onRelay, removed]
      | answered => rfl

/-- **A run of the desk is a run of the world.** -/
theorem world_run (d : Desk) (events : List Event) :
    (d.run events).world = d.world.run (d.feltIn events) := by
  induction events generalizing d with
  | nil => rfl
  | cons ev rest ih =>
    rw [feltIn, World.run_append, ← world_step]
    exact ih (d.step ev)

/-- What an event makes of one request: it leaves it alone, or is a step of it. -/
theorem ending_of_step {d : Desk} {i : Nat} {e' : Ending} {ev : Event}
    (after : (d.step ev).endings[i]? = some e') :
    d.endings[i]? = some e' ∨ (d.endings[i]? = none ∧ e'.phase = .looking) ∨
      ∃ e, d.endings[i]? = some e ∧ ev = .proceed i ∧ e' = (e.step d.world.relay).1 := by
  cases ev with
  | other ev => exact Or.inl after
  | ask code user =>
    -- A new request comes behind all others.
    have both : (d.endings ++ [⟨code, user, .looking⟩])[i]? = some e' := after
    rw [List.getElem?_append] at both
    split at both
    next => exact Or.inl both
    next outside =>
      refine Or.inr (Or.inl ⟨List.getElem?_eq_none (by omega), ?_⟩)
      have isLast := List.mem_of_getElem? both
      obtain rfl : e' = ⟨code, user, .looking⟩ := by simpa using isLast
      rfl
  | proceed j =>
    cases asked : d.endings[j]? with
    | none =>
      rw [step, asked] at after
      exact Or.inl after
    | some e =>
      rw [step_proceed asked] at after
      by_cases mine : j = i
      · subst mine
        have inside := (List.getElem?_eq_some_iff.mp asked).1
        refine Or.inr (Or.inr ⟨e, asked, rfl, ?_⟩)
        exact (Option.some.inj ((List.getElem?_set_self inside).symm.trans after)).symm
      · exact Or.inl ((List.getElem?_set_ne mine).symm.trans after)

/-- A step that leads to a removal is a look that found the room to be the user's. -/
theorem of_removing {e : Ending} {r : Relay} {code user : String}
    (h : (e.step r).1 = ⟨code, user, .removing⟩) :
    e = ⟨code, user, .looking⟩ ∧ mayEnd r code user = true := by
  obtain ⟨code', user', phase⟩ := e
  unfold Ending.step at h
  cases phase with
  | looking =>
    dsimp only at h
    split at h
    next may =>
      cases h
      exact ⟨rfl, may⟩
    next => cases h
  | removing =>
    dsimp only at h
    cases removed : r.remove code' with
    | mk was r' =>
      rw [removed] at h
      cases was <;> cases h
  | answered => cases h

/-- A request that is about to remove has looked before. -/
theorem looked_before (d : Desk) (events : List Event) {i : Nat} {code user : String}
    (fresh : d.endings = [])
    (asked : (d.run events).endings[i]? = some ⟨code, user, .removing⟩) :
    ∃ earlier later, events = earlier ++ .proceed i :: later ∧
      (d.run earlier).endings[i]? = some ⟨code, user, .looking⟩ ∧
      mayEnd (d.run earlier).world.relay code user = true := by
  induction events using List.reverseRecOn with
  | nil =>
    have none_ : d.endings[i]? = some ⟨code, user, .removing⟩ := asked
    rw [fresh] at none_
    cases none_
  | append_singleton events ev ih =>
    rw [run_snoc] at asked
    rcases ending_of_step asked with before | ⟨-, looking⟩ | ⟨e, before, rfl, isStep⟩
    · obtain ⟨earlier, later, rfl, looking, may⟩ := ih before
      exact ⟨earlier, later ++ [ev], by simp, looking, may⟩
    · cases looking
    · obtain ⟨rfl, may⟩ := of_removing isStep.symm
      exact ⟨events, [], rfl, before, may⟩

/-! ## Whose room is removed -/

/-- A removal takes the room that has the code now, and answers that it has. -/
theorem removes {d : Desk} {i : Nat} {code user : String}
    (asked : d.endings[i]? = some ⟨code, user, .removing⟩) {s : Session}
    (live : d.world.relay.find? code = some s) :
    (d.step (.proceed i)).endings[i]? = some ⟨code, user, .answered { status := 204 }⟩ ∧
    (d.step (.proceed i)).world.relay.rooms = d.world.relay.without code := by
  have inside := (List.getElem?_eq_some_iff.mp asked).1
  have removed : (Ending.step ⟨code, user, .removing⟩ d.world.relay) =
      (⟨code, user, .answered { status := 204 }⟩, (d.world.relay.remove code).2) := by
    simp [Ending.step, Relay.remove, live]
  rw [step_proceed asked, removed]
  refine ⟨List.getElem?_set_self inside, ?_⟩
  simp [Relay.remove, live]

/-- **Whose room a request ends.** When a request is about to remove a room, after any events
in any order, it removes the room that has the code now. It has looked at the room of the
code before, and its user was the presenter there. The room that it removes has this user for
its presenter exactly if the room has lasted since the look, or was begun since for the same
user. -/
theorem ends_own_room_iff (limits : Limits) (candidates : Nat → String) (events : List Event)
    {d : Desk} (reached : d = (start limits candidates).run events) {i : Nat} {code user : String}
    (asked : d.endings[i]? = some ⟨code, user, .removing⟩) {s : Session}
    (live : d.world.relay.find? code = some s) :
    ((d.step (.proceed i)).endings[i]? = some ⟨code, user, .answered { status := 204 }⟩ ∧
      (d.step (.proceed i)).world.relay.rooms = d.world.relay.without code) ∧
    ∃ earlier later looked, events = earlier ++ .proceed i :: later ∧
      looked = (start limits candidates).run (earlier ++ [.proceed i]) ∧
      mayEnd looked.world.relay code user = true ∧
      ((s.slot .presenter).identity = some user ↔
        looked.world.Lasts code (looked.feltIn later) ∨
          looked.world.BegunFor user code (looked.feltIn later) s) := by
  refine ⟨removes asked live, ?_⟩
  rw [reached] at asked
  obtain ⟨earlier, later, split, looking, may⟩ := looked_before _ events rfl asked
  refine ⟨earlier, later, _, split, rfl, ?_⟩
  -- The look itself changes nothing.
  have unmoved : ((start limits candidates).run (earlier ++ [.proceed i])).world =
      ((start limits candidates).run earlier).world := by
    rw [run_snoc, world_step, felt, looking]
    rfl
  have isRun : ((start limits candidates).run (earlier ++ [.proceed i])).world =
      (World.start limits candidates).run ((start limits candidates).feltIn earlier) := by
    rw [unmoved, world_run]
    rfl
  have now : d.world = ((start limits candidates).run (earlier ++ [.proceed i])).world.run
      (((start limits candidates).run (earlier ++ [.proceed i])).feltIn later) := by
    rw [← world_run, ← run_append, reached, split]
    simp
  rw [← unmoved] at may
  refine ⟨may, ?_⟩
  obtain ⟨s₀, live₀, isPresenter⟩ := presenter_of_mayEnd may
  rw [now] at live
  constructor
  · intro own
    -- A room that has not lasted was begun since, and its presenter tells for whom.
    by_cases lasts : ((start limits candidates).run (earlier ++ [.proceed i])).world.Lasts code
        (((start limits candidates).run (earlier ++ [.proceed i])).feltIn later)
    · exact Or.inl lasts
    · have was : Relay.isLive _ code = true := Option.isSome_iff_exists.mpr ⟨s₀, live₀⟩
      obtain ⟨presenter, begun⟩ := (World.begun_since isRun lasts live was).exists_begunFor
      obtain rfl : presenter = user := by
        rw [begun.presenter] at own
        exact Option.some.inj own
      exact Or.inr begun
  · rintro (lasts | begun)
    · obtain ⟨s', live', became⟩ := World.becomes_run isRun live₀ lasts
      obtain rfl : s' = s := Option.some.inj (live'.symm.trans live)
      rw [became.presenter]
      exact isPresenter
    · exact begun.presenter

/-- A host asks twice for the end of the room, and both requests look before either removes. -/
def twice : List Event :=
  [.other (.create "host"), .ask "room" "host", .ask "room" "host", .proceed 0, .proceed 1]

/-- The first of them has ended the room, and a stranger has got one with the same code. -/
def overtaken : List Event := twice ++ [.proceed 0, .other (.create "stranger")]

/-- The second request looked while the room was the host's. By the time it removes one, the code
is a stranger's. -/
theorem ends_own_room_iff_overtaken :
    let d := (start ⟨4, 2⟩ fun _ => "room").run overtaken
    let s := Session.start "room" "stranger" ⟨4, 2⟩ 0
    d.endings[1]? = some ⟨"room", "host", .removing⟩ ∧ d.world.relay.find? "room" = some s ∧
    ∃ earlier later looked, overtaken = earlier ++ .proceed 1 :: later ∧
      looked = (start ⟨4, 2⟩ fun _ => "room").run (earlier ++ [.proceed 1]) ∧
      mayEnd looked.world.relay "room" "host" = true ∧
      ((s.slot .presenter).identity = some "host" ↔
        looked.world.Lasts "room" (looked.feltIn later) ∨
          looked.world.BegunFor "host" "room" (looked.feltIn later) s) :=
  ⟨rfl, rfl, (ends_own_room_iff ⟨4, 2⟩ (fun _ => "room") overtaken rfl rfl rfl).2⟩

/-- The host's second request ends the room of the stranger. -/
theorem ends_room_of_stranger :
    let d := (start ⟨4, 2⟩ fun _ => "room").run overtaken
    d.endings[1]? = some ⟨"room", "host", .removing⟩ ∧
    (∃ s, d.world.relay.find? "room" = some s ∧
      (s.slot .presenter).identity = some "stranger") ∧
    (d.step (.proceed 1)).endings[1]? = some ⟨"room", "host", .answered { status := 204 }⟩ ∧
    (d.step (.proceed 1)).world.relay.isLive "room" = false :=
  ⟨rfl, ⟨_, rfl, rfl⟩, rfl, rfl⟩

end Desk

end Http

end Rendezvous
