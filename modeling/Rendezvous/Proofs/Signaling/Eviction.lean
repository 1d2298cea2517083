import Mathlib.Data.List.Flatten
import Rendezvous.Proofs.Signaling.Activity
import Rendezvous.Proofs.Signaling.Isolation

/-!
# What a sweep takes

A sweep takes the rooms that have been idle for too long, and a room has been idle since the
last operation that stirred it. `Relay.stirrings` gathers the times of these operations from
a run, without a look at any room, and `dated_run` shows that a live room's own time is the
latest of them. So the rooms that a sweep takes are told by the history alone
(`evicted_by_history`).

The other half is what the sweep does to connections. It asks those of the rooms that it
takes to close, each as often as it is named there, and no others.
-/

namespace Rendezvous

namespace Relay

variable {r : Relay} {code : String} {role : Role} {id : ConnId}

/-! ## The history of a room -/

/-- The times at which the operations of a run stirred the room of a code. They include the
times of earlier rooms of the code, which are no later than the making of the present one. -/
def stirrings (code : String) : Relay → List Operation → List Instant
  | _, [] => []
  | r, op :: rest =>
    (if r.stirs code op then [r.now] else []) ++ stirrings code (r.operate op).2 rest

theorem run_snoc (r : Relay) (ops : List Operation) (op : Operation) :
    r.run (ops ++ [op]) = ((r.run ops).operate op).2 := by
  induction ops generalizing r with
  | nil => rfl
  | cons first rest ih => exact ih (r.operate first).2

/-- One more operation is one more time, if it stirs the room. -/
theorem stirrings_snoc (code : String) (r : Relay) (ops : List Operation) (op : Operation) :
    r.stirrings code (ops ++ [op]) = r.stirrings code ops ++
      if (r.run ops).stirs code op then [(r.run ops).now] else [] := by
  induction ops generalizing r with
  | nil => exact List.append_nil _
  | cons first rest ih =>
    show _ ++ (r.operate first).2.stirrings code (rest ++ [op]) = _
    rw [ih, ← List.append_assoc]
    rfl

/-- These are the times of a room: none is still to come, and the latest is the one that the
room keeps. -/
structure Dated (r : Relay) (code : String) (times : List Instant) : Prop where
  past : ∀ time ∈ times, time ≤ r.now
  latest : ∀ s, r.find? code = some s → times.max? = some s.lastActive

/-- Time does not go back. -/
theorem now_operate (r : Relay) (op : Operation) : r.now ≤ (r.operate op).2.now := by
  rw [operate_deed, (r.fixed_perform op.deed).2.2]
  exact Nat.le_add_right ..

/-- An operation that stirs the room adds the present to its times, and they date the room again.
-/
theorem dated_operate (keyed : Keyed r.rooms) {times : List Instant} (h : r.Dated code times)
    (op : Operation) :
    (r.operate op).2.Dated code (times ++ if r.stirs code op then [r.now] else []) := by
  constructor
  · intro time mem
    have passes := r.now_operate op
    rcases List.mem_append.mp mem with old | new
    · exact Nat.le_trans (h.past time old) passes
    · split at new
      · rw [List.mem_singleton.mp new]
        exact passes
      · exact absurd new List.not_mem_nil
  · intro s' found
    have kept := active_operate keyed op found
    unfold TimeKept at kept
    split at kept
    next stirred =>
      -- The present is no earlier than any time before.
      rw [if_pos stirred, kept, List.max?_eq_some_iff]
      refine ⟨List.mem_append_right _ (List.mem_singleton_self _), fun time mem => ?_⟩
      rcases List.mem_append.mp mem with old | new
      · exact h.past time old
      · exact Nat.le_of_eq (List.mem_singleton.mp new)
    next calm =>
      obtain ⟨s, live, same⟩ := kept
      rw [if_neg calm, List.append_nil, same]
      exact h.latest s live

/-- No two rooms ever have one code. -/
theorem keyed_run (keyed : Keyed r.rooms) (ops : List Operation) : Keyed (r.run ops).rooms := by
  induction ops generalizing r with
  | nil => exact keyed
  | cons op rest ih =>
    apply ih
    rw [operate_deed]
    exact keyed_perform keyed _

/-- **A live room was last active when it was last stirred.** -/
theorem dated_run (empty : r.rooms = []) (code : String) (ops : List Operation) :
    (r.run ops).Dated code (r.stirrings code ops) := by
  have keyed : Keyed r.rooms := by
    rw [empty]
    exact List.nodup_nil
  induction ops using List.reverseRecOn with
  | nil =>
    refine ⟨fun _ mem => absurd mem List.not_mem_nil, fun s live => ?_⟩
    rw [run, find?, empty] at live
    cases live
  | append_singleton ops op ih =>
    rw [run_snoc, stirrings_snoc]
    exact dated_operate (keyed_run keyed ops) ih op

/-! ## What is taken -/

/-- A sweep names the rooms that are idle. -/
theorem mem_evict_iff (keyed : Keyed r.rooms) (maxIdle : Nat) :
    code ∈ (r.evict maxIdle).1 ↔ ∃ s, r.find? code = some s ∧ r.isIdle maxIdle s = true := by
  show code ∈ (r.rooms.filter (r.isIdle maxIdle)).map (·.code) ↔ _
  rw [List.mem_map]
  constructor
  · rintro ⟨s, chosen, rfl⟩
    obtain ⟨isRoom, idle⟩ := List.mem_filter.mp chosen
    exact ⟨s, find?_of_mem keyed isRoom, idle⟩
  · rintro ⟨s, live, idle⟩
    have isRoom : s ∈ r.rooms := List.mem_of_find?_eq_some live
    exact ⟨s, List.mem_filter.mpr ⟨isRoom, idle⟩, code_of_find? live⟩

theorem nodup_evict (keyed : Keyed r.rooms) (maxIdle : Nat) : (r.evict maxIdle).1.Nodup :=
  keyed.sublist (List.filter_sublist.map _)

/-- After a sweep the rooms that it names are gone, and the others are as they were. -/
theorem find?_evict_eq (keyed : Keyed r.rooms) (maxIdle : Nat) (code : String) :
    (r.evict maxIdle).2.find? code =
      if code ∈ (r.evict maxIdle).1 then none else r.find? code := by
  have taken : code ∈ (r.evict maxIdle).1 ↔ _ := mem_evict_iff keyed maxIdle
  rw [find?_evict keyed]
  cases live : r.find? code with
  | none => split <;> rfl
  | some s =>
    rw [live] at taken
    rw [Option.filter_some]
    cases idle : r.isIdle maxIdle s with
    | true => rw [if_pos (taken.mpr ⟨s, rfl, idle⟩)]; rfl
    | false =>
      have stays : code ∉ (r.evict maxIdle).1 := by
        intro mem
        obtain ⟨x, isRoom, isIdle⟩ := taken.mp mem
        obtain rfl := Option.some.inj isRoom
        rw [idle] at isIdle
        cases isIdle
      rw [if_neg stays]
      rfl

/-! ## Who is asked to close -/

/-- Of all slots of all rooms, the connection sits in one at most. -/
def SeatedOnce (r : Relay) (id : ConnId) : Prop :=
  (r.rooms.flatMap Session.connections).count id ≤ 1

/-- How often a connection is named among those of the rooms that a sweep takes. -/
def asked (r : Relay) (maxIdle : Nat) (id : ConnId) : Nat :=
  ((r.rooms.filter (r.isIdle maxIdle)).flatMap Session.connections).count id

/-- A connection is offered one request for each time that it is named. -/
theorem channel_evict (r : Relay) (maxIdle : Nat) (id : ConnId) :
    (r.evict maxIdle).2.channel id =
      (r.channel id).offerAll (List.replicate (r.asked maxIdle id) (.close expiredReason)) :=
  channel_perform r (d := .evict maxIdle) rfl id

/-- Whoever sits in none of the rooms is not named. -/
theorem asked_of_away (keyed : Keyed r.rooms) {maxIdle : Nat}
    (away : ∀ code ∈ (r.evict maxIdle).1, ∀ role, ¬ r.Seated id code role) :
    r.asked maxIdle id = 0 := by
  apply List.count_eq_zero_of_not_mem
  intro named
  obtain ⟨s, chosen, inside⟩ := List.mem_flatMap.mp named
  obtain ⟨isRoom, idle⟩ := List.mem_filter.mp chosen
  obtain ⟨role, held⟩ := Session.mem_connections.mp inside
  have live := find?_of_mem keyed isRoom
  exact away s.code ((mem_evict_iff keyed maxIdle).mpr ⟨s, live, idle⟩) role ⟨s, live, held⟩

/-- Whoever sits in one slot is named once, if the room is taken. -/
theorem asked_of_seated {maxIdle : Nat} (keyed : Keyed r.rooms) (once : r.SeatedOnce id)
    (taken : code ∈ (r.evict maxIdle).1) (seated : r.Seated id code role) :
    r.asked maxIdle id = 1 := by
  obtain ⟨s, live, idle⟩ := (mem_evict_iff keyed maxIdle).mp taken
  have held : (s.slot role).connection = some id := by
    obtain ⟨x, isRoom, held⟩ := seated
    obtain rfl := Option.some.inj (live.symm.trans isRoom)
    exact held
  have chosen : s ∈ r.rooms.filter (r.isIdle maxIdle) :=
    List.mem_filter.mpr ⟨List.mem_of_find?_eq_some live, idle⟩
  have named : 0 < r.asked maxIdle id :=
    List.count_pos_iff.mpr
      (List.mem_flatMap.mpr ⟨s, chosen, Session.mem_connections.mpr ⟨role, held⟩⟩)
  have few : r.asked maxIdle id ≤ (r.rooms.flatMap Session.connections).count id :=
    (List.filter_sublist.flatMap Session.connections).count_le id
  have atMost : (r.rooms.flatMap Session.connections).count id ≤ 1 := once
  omega

/-- **A sweep goes by the history of the rooms.** After any run from a relay without rooms, a
sweep takes a room exactly if it is live and the latest time at which an operation stirred it
lies more than the limit back. It names every room that it takes once, these are gone, and all
others are as they were. A connection that sits in no room that is taken has its channel as it
was; and one that sits in one slot only, in a room that is taken, is offered one frame, the
request to close, which it takes if it is read and not full. -/
theorem evicted_by_history (limits : Limits) (candidates : Nat → String) (lines : Lines)
    {ops : List Operation} {start : Relay} (fresh : start = opened limits candidates lines)
    {r : Relay} (reached : r = start.run ops) (maxIdle : Nat) :
    (∀ code, code ∈ (r.evict maxIdle).1 ↔ r.isLive code = true ∧
      ∃ latest, (start.stirrings code ops).max? = some latest ∧ latest + maxIdle < r.now) ∧
    (r.evict maxIdle).1.Nodup ∧
    (∀ code, (r.evict maxIdle).2.find? code =
      if code ∈ (r.evict maxIdle).1 then none else r.find? code) ∧
    (∀ id, (∀ code ∈ (r.evict maxIdle).1, ∀ role, ¬ r.Seated id code role) →
      (r.evict maxIdle).2.channel id = r.channel id) ∧
    ∀ id code role, r.SeatedOnce id → r.Seated id code role → code ∈ (r.evict maxIdle).1 →
      ∀ c, c = r.channel id → (r.evict maxIdle).2.channel id =
        if c.listening = true ∧ c.queue.length < c.capacity
        then { c with accepted := c.accepted ++ [.close expiredReason] } else c := by
  have empty : start.rooms = [] := by
    rw [fresh]
    rfl
  have keyed : Keyed r.rooms := by
    rw [reached]
    apply keyed_run
    rw [empty]
    exact List.nodup_nil
  refine ⟨fun code => ?_, nodup_evict keyed maxIdle, find?_evict_eq keyed maxIdle, ?_, ?_⟩
  · have dated : r.Dated code (start.stirrings code ops) := by
      rw [reached]
      exact dated_run empty code ops
    have idle : ∀ s : Session, r.isIdle maxIdle s = true ↔ s.lastActive + maxIdle < r.now := by
      intro s
      rw [isIdle, Session.idle, decide_eq_true_iff]
      exact Nat.lt_sub_iff_add_lt'
    rw [mem_evict_iff keyed]
    constructor
    · rintro ⟨s, live, isIdle⟩
      refine ⟨?_, s.lastActive, dated.latest s live, (idle s).mp isIdle⟩
      rw [isLive, live, Option.isSome_some]
    · rintro ⟨live, latest, isLatest, before⟩
      obtain ⟨s, found⟩ := Option.isSome_iff_exists.mp live
      rw [dated.latest s found] at isLatest
      obtain rfl := Option.some.inj isLatest
      exact ⟨s, found, (idle s).mpr before⟩
  · intro id away
    rw [channel_evict, asked_of_away keyed away]
    rfl
  · rintro id code role once seated taken c rfl
    rw [channel_evict, asked_of_seated keyed once taken seated]
    exact Channel.offer_eq ..

/-- Two rooms are made and joined. The first is stirred again by a message that its full
connection refuses; the second only by a connection that left long ago. -/
def drowsing : List Operation :=
  [.create "stranger", .create "host", .join "den" .presenter ⟨0⟩, .join "room" .presenter ⟨1⟩,
    .send "den" .presenter ⟨.offer, .null, "video"⟩, .wait 5, .leave "room" .presenter ⟨2⟩,
    .check "room", .send "den" .presenter ⟨.offer, .null, "video"⟩, .wait 5]

/-- Where they are: three connections that hold one frame each, and two codes to draw. -/
def quarters : Relay :=
  opened ⟨4, 2⟩ (fun n => if n = 0 then "den" else "room")
    ⟨[(⟨0⟩, .fresh 1), (⟨1⟩, .fresh 1), (⟨2⟩, .fresh 1)]⟩

/-- The first room was stirred last at five, the second at zero, and at ten a sweep with a limit
of five takes the second only. -/
theorem evicted_by_history_drowsing :
    let r := quarters.run drowsing
    (quarters.stirrings "den" drowsing).max? = some 5 ∧
    (quarters.stirrings "room" drowsing).max? = some 0 ∧ r.now = 10 ∧
    r.Seated ⟨0⟩ "den" .presenter ∧ r.Seated ⟨1⟩ "room" .presenter ∧ r.SeatedOnce ⟨1⟩ ∧
    (r.evict 5).1 = ["room"] ∧ (r.evict 5).2.find? "room" = none ∧
    (r.evict 5).2.find? "den" = r.find? "den" ∧
    (r.evict 5).2.channel ⟨0⟩ = r.channel ⟨0⟩ ∧
    (r.evict 5).2.channel ⟨1⟩ = { r.channel ⟨1⟩ with
      accepted := (r.channel ⟨1⟩).accepted ++ [.close expiredReason] } := by
  intro r
  have den : (quarters.stirrings "den" drowsing).max? = some 5 := by decide +kernel
  have room : (quarters.stirrings "room" drowsing).max? = some 0 := by decide +kernel
  have now : r.now = 10 := by decide +kernel
  have first : r.Seated ⟨0⟩ "den" .presenter := by decide +kernel
  have second : r.Seated ⟨1⟩ "room" .presenter := by decide +kernel
  have once : r.SeatedOnce ⟨1⟩ := by unfold SeatedOnce; decide +kernel
  obtain ⟨taken, -, rooms, others, asked⟩ := evicted_by_history ⟨4, 2⟩ _ _
    (show quarters = opened .. from rfl) (show r = _ from rfl) 5
  have named : (r.evict 5).1 = ["room"] := by decide +kernel
  have isRoom : "room" ∈ (r.evict 5).1 :=
    (taken "room").mpr ⟨by decide +kernel, 0, room, by rw [now]; decide⟩
  have stays : "den" ∉ (r.evict 5).1 := by rw [named]; decide
  refine ⟨den, room, now, first, second, once, named, ?_, ?_, ?_, ?_⟩
  · rw [rooms, if_pos isRoom]
  · rw [rooms, if_neg stays]
  · apply others
    intro code mem role seated
    rw [named, List.mem_singleton] at mem
    subst mem
    have apart : ∀ role, ¬ r.Seated ⟨0⟩ "room" role := by
      rintro (_ | _) <;> decide +kernel
    exact apart role seated
  · rw [asked _ _ _ once second isRoom _ rfl, if_pos (by decide +kernel)]

end Relay

end Rendezvous
