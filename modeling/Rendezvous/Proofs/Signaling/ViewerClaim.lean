import Rendezvous.Proofs.Signaling.Fate

/-!
# Claims to the viewer's slot

A user claims the viewer's slot of a room by name, with or without a connection in it. The
slot is emptied, name and all, when the connection in it leaves, and that connection may
have come long before the claim. So a claim does not outlive whoever sits in the slot, but
nothing that any other connection does ends it (`viewer_step`).
-/

namespace Rendezvous

namespace Side

/-- What an event makes of the viewer that a side names. -/
def viewerAfter (side : Side) : Session.Event → Option String
  | .claim user => some user
  | .clear => none
  | .detach .viewer id => if side.slot.connection = some id then none else side.slot.identity
  | _ => side.slot.identity

/-- Who the viewer's slot is of after an event. -/
theorem identity_step (limits : Limits) (side : Side) (ev : Session.Event) :
    (side.step limits .viewer ev).slot.identity = side.viewerAfter ev := by
  cases ev with
  | relay destination e =>
    rw [step]
    split
    · rfl
    · rw [slot_remember]
      rfl
  | attach r id =>
    rw [step]
    split <;> rfl
  | detach r id =>
    rw [step]
    cases r with
    | presenter => rfl
    | viewer =>
      rw [viewerAfter]
      by_cases held : side.slot.connection = some id
      · rw [if_pos ⟨rfl, held⟩, if_pos held]
        rfl
      · rw [if_neg fun both => held both.2, if_neg held]
  | claim | clear | close | connect | take | drop | wait => rfl

end Side

namespace Relay

/-- The user who has claimed the viewer's slot of a room. -/
def viewer? (r : Relay) (code : String) : Option String :=
  (r.find? code).bind fun s => (s.slot .viewer).identity

variable {r r' : Relay} {code user : String}

theorem Alike.viewer? (h : r.Alike r') (code : String) : r.viewer? code = r'.viewer? code := by
  unfold Relay.viewer?
  rw [h.find?]

/-- A deed that ends a claim to the viewer's slot. -/
def Unclaims (r : Relay) (code : String) : Deed → Prop
  | .remove removed => removed = code
  | .evict maxIdle => ∃ s, r.find? code = some s ∧ r.isIdle maxIdle s = true
  | .within inside (.claim _) | .within inside .clear => inside = code
  | .within inside (.detach .viewer id) => inside = code ∧ r.Seated id code .viewer
  | _ => False

/-- **A claim survives a deed** unless the deed is one of these. -/
theorem viewer_perform (keyed : Keyed r.rooms) (claimed : r.viewer? code = some user) {d : Deed}
    (another : d ≠ .within code (.claim user)) :
    (r.perform d).viewer? code = some user ↔ ¬ r.Unclaims code d := by
  obtain ⟨s, live, held⟩ := Option.bind_eq_some_iff.mp claimed
  -- The room is found as it was, or it is gone, or one event happens in it.
  have kept : (r.perform d).find? code = r.find? code → ¬ r.Unclaims code d →
      ((r.perform d).viewer? code = some user ↔ ¬ r.Unclaims code d) := by
    intro same not_
    rw [viewer?, same]
    exact ⟨fun _ => not_, fun _ => claimed⟩
  have lost : (r.perform d).find? code = none → r.Unclaims code d →
      ((r.perform d).viewer? code = some user ↔ ¬ r.Unclaims code d) := by
    intro gone yes
    rw [viewer?, gone]
    exact ⟨fun h => (by cases h), fun h => absurd yes h⟩
  cases d with
  | create presenter =>
    refine kept ?_ not_false
    rcases find?_create r presenter code with same | ⟨absent, -⟩
    · exact same
    · rw [live] at absent
      cases absent
  | remove removed =>
    have found := find?_remove keyed removed code
    rw [live, Option.filter_some, code_of_find? live] at found
    by_cases same : removed = code
    · subst same
      rw [bne_self_eq_false, if_neg Bool.false_ne_true] at found
      exact lost found rfl
    · rw [if_pos (bne_iff_ne.mpr fun e => same e.symm)] at found
      exact kept (found.trans live.symm) same
  | evict maxIdle =>
    have found := find?_evict keyed maxIdle code
    rw [live, Option.filter_some] at found
    cases idle : r.isIdle maxIdle s with
    | true =>
      rw [idle] at found
      exact lost found ⟨s, live, idle⟩
    | false =>
      rw [idle] at found
      refine kept (found.trans live.symm) ?_
      rintro ⟨x, live', idle'⟩
      obtain rfl : s = x := Option.some.inj (live.symm.trans live')
      rw [idle] at idle'
      cases idle'
  | within inside ev =>
    have found := find?_within r inside code ev
    by_cases mine : inside = code
    · subst mine
      rw [if_pos rfl, live, Option.map_some] at found
      have after : (r.perform (.within inside ev)).viewer? inside = (s.side .viewer).viewerAfter ev := by
        rw [viewer?, found]
        show ((Session.Stage.step _ ev).session.side .viewer).slot.identity = _
        rw [Session.side_step, Side.identity_step]
      have stays : (s.side .viewer).slot.identity = some user := held
      rw [after]
      cases ev with
      | claim other =>
        refine ⟨fun named => ?_, fun not_ => absurd rfl not_⟩
        obtain rfl : other = user := Option.some.inj named
        exact absurd rfl another
      | clear => exact ⟨fun named => (by cases named), fun not_ => absurd rfl not_⟩
      | detach role id =>
        cases role with
        | presenter => exact ⟨fun _ => not_false, fun _ => stays⟩
        | viewer =>
          rw [Side.viewerAfter]
          split
          next sits =>
            refine ⟨fun named => (by cases named), fun not_ => absurd ⟨rfl, s, live, sits⟩ not_⟩
          next away =>
            refine ⟨fun _ leaves => ?_, fun _ => stays⟩
            obtain ⟨-, x, live', sits⟩ := leaves
            obtain rfl : s = x := Option.some.inj (live.symm.trans live')
            exact away sits
      | relay | attach | close | connect | take | drop | wait => exact ⟨fun _ => not_false, fun _ => stays⟩
    · rw [if_neg mine] at found
      refine kept found ?_
      cases ev with
      | detach role id =>
        cases role with
        | presenter => exact not_false
        | viewer => exact fun leaves => mine leaves.1
      | claim | clear => exact mine
      | relay | attach | close | connect | take | drop | wait => exact not_false
  | nothing | tell | connect | take | drop | wait => exact kept rfl not_false

end Relay

namespace Signaling

variable {code user : String}

/-- A call that reads on ends nobody's claim and makes none. -/
theorem Call.Move.spares {r : Relay} {c c' : Call} {d : Deed} (move : c.Move r d c')
    (reading : c.isReading = true) (code user : String) :
    ¬ r.Unclaims code d ∧ d ≠ .within code (.claim user) := by
  cases move with
  | leaves => cases reading
  | joins | relays =>
    refine ⟨not_false, fun same => ?_⟩
    cases same
  | refused | hangsUp | stops | closes | rests => exact ⟨not_false, fun h => by cases h⟩

/-- Nobody loses a claim to what a call reads. -/
theorem Call.viewer_read {r : Relay} (keyed : Relay.Keyed r.rooms) (c : Call)
    (claimed : r.viewer? code = some user) (next : Option Inbound) :
    (c.read r next).2.viewer? code = some user := by
  cases reading : c.isReading with
  | false =>
    rw [read_of_stopped reading]
    exact claimed
  | true =>
    obtain ⟨d, move, alike⟩ := c.move_read r next
    rw [alike.viewer?]
    obtain ⟨harmless, another⟩ := move.spares reading code user
    exact (Relay.viewer_perform keyed claimed another).mpr harmless

/-- A claim is lost with a call that leaves the viewer's slot, if its connection still sits
there. -/
theorem Call.viewer_finish {r : Relay} (keyed : Relay.Keyed r.rooms) (c : Call)
    (claimed : r.viewer? code = some user) :
    (c.finish r).2.viewer? code = some user ↔
      ¬ (c.phase = .leaving code .viewer ∧ r.Seated c.connection code .viewer) := by
  obtain ⟨id, phase⟩ := c
  cases phase with
  | leaving inside role =>
    show (r.leave inside role id).viewer? code = some user ↔ _
    have another : Deed.within inside (.detach role id) ≠ .within code (.claim user) := by
      intro same
      cases same
    rw [Relay.leave_eq, Relay.viewer_perform keyed claimed another]
    cases role with
    | presenter => exact ⟨fun _ both => (by cases both.1), fun _ => not_false⟩
    | viewer =>
      refine not_congr ⟨fun ⟨same, seated⟩ => ⟨same ▸ rfl, seated⟩, fun ⟨phase, seated⟩ => ?_⟩
      cases phase
      exact ⟨rfl, seated⟩
  | awaiting | relaying | closing | done =>
    exact ⟨fun _ both => (by cases both.1), fun _ => claimed⟩

namespace World

/-- What ends a claim to the viewer's slot of a room: another claim, the slot is emptied, the
room is removed or has been idle for too long, or the connection that sits in the slot at
this moment leaves it. -/
def Unclaims (w : World) (code : String) : Event → Prop
  | .claim inside _ | .clear inside | .remove inside => inside = code
  | .evict maxIdle => ∃ s, w.relay.find? code = some s ∧ w.relay.isIdle maxIdle s = true
  | .leave inside .viewer id => inside = code ∧ w.relay.Seated id code .viewer
  | .finish i => ∃ c, w.calls[i]? = some c ∧ c.phase = .leaving code .viewer ∧
      w.relay.Seated c.connection code .viewer
  | _ => False

theorem unclaims_iff {w : World} {ev : Event} {d : Deed} (isDeed : ev.deed? = some d) :
    w.Unclaims code ev ↔ w.relay.Unclaims code d := by
  cases ev with
  | leave inside role id => cases isDeed; cases role <;> exact Iff.rfl
  | serve | read | finish => cases isDeed
  | _ => cases isDeed; exact Iff.rfl

/-- **A claim survives an event** unless the event is one of those that end it. -/
theorem viewer_step {w : World} (keyed : Relay.Keyed w.relay.rooms)
    (claimed : w.relay.viewer? code = some user) {ev : Event} (another : ev ≠ .claim code user) :
    (w.step ev).relay.viewer? code = some user ↔ ¬ w.Unclaims code ev := by
  cases isDeed : ev.deed? with
  | some d =>
    rw [unclaims_iff isDeed, (step_of_deed? isDeed).2]
    refine Relay.viewer_perform keyed claimed ?_
    rintro rfl
    cases ev with
    | claim => cases isDeed; exact another rfl
    | _ => cases isDeed
  | none =>
    -- The steps of a call have no single deed, so the call is looked at.
    cases ev with
    | serve id => exact ⟨fun _ => not_false, fun _ => claimed⟩
    | read i next =>
      refine ⟨fun _ => not_false, fun _ => ?_⟩
      cases called : w.calls[i]? with
      | none =>
        show (w.onCall i _).relay.viewer? code = _
        rw [onCall, called]
        exact claimed
      | some c =>
        show (w.onCall i _).relay.viewer? code = _
        rw [onCall_of_some called]
        exact c.viewer_read keyed claimed next
    | finish i =>
      show (w.onCall i _).relay.viewer? code = _ ↔ ¬ ∃ c, _
      cases called : w.calls[i]? with
      | none =>
        rw [onCall, called]
        refine ⟨fun _ => ?_, fun _ => claimed⟩
        rintro ⟨_, found, -⟩
        cases found
      | some c =>
        rw [onCall_of_some called]
        refine (c.viewer_finish keyed claimed).trans (not_congr ⟨fun leaves => ⟨c, rfl, leaves⟩, ?_⟩)
        rintro ⟨x, found, leaves⟩
        obtain rfl := Option.some.inj found
        exact leaves
    | _ => cases isDeed

/-- A claim to a live room is seen at once. -/
theorem viewer_claim {w : World} (claimed : (w.relay.claimViewer code user).1 = true) :
    (w.step (.claim code user)).relay.viewer? code = some user := by
  have live : (w.relay.find? code).isSome = true := by
    unfold Relay.claimViewer Relay.change at claimed
    cases found : w.relay.find? code with
    | some s => rfl
    | none =>
      rw [found] at claimed
      cases claimed
  obtain ⟨s, live⟩ := Option.isSome_iff_exists.mp live
  show (w.relay.claimViewer code user).2.viewer? code = _
  rw [Relay.claimViewer_eq, Relay.viewer?, Relay.find?_within, if_pos rfl, live]
  rfl

/-- **A claim lasts** from the moment at which it was granted, through every run in which
nothing has ended it; and then each further event leaves it as it is, unless it is one of
those that end it. -/
theorem claim_lasts (limits : Limits) (candidates : Nat → String) (before later : List Event)
    (claimed : (((start limits candidates).run before).relay.claimViewer code user).1 = true)
    {w₀ w : World} (granted : w₀ = ((start limits candidates).run before).step (.claim code user))
    (reached : w = w₀.run later)
    (undisturbed : ∀ earlier ev, earlier ++ [ev] <+: later → ¬ (w₀.run earlier).Unclaims code ev) :
    w.relay.viewer? code = some user ∧
    ∀ ev, ev ≠ .claim code user →
      ((w.step ev).relay.viewer? code = some user ↔ ¬ w.Unclaims code ev) := by
  have keyed : ∀ events, Relay.Keyed (w₀.run events).relay.rooms := by
    intro events
    rw [granted, ← run_snoc, ← run_append]
    exact keyed_run ..
  -- The last step at which the claim could be lost is one like all others.
  suffices held : (w₀.run later).relay.viewer? code = some user by
    rw [reached]
    exact ⟨held, fun ev another => viewer_step (keyed later) held another⟩
  clear reached
  induction later using List.reverseRecOn with
  | nil => exact granted ▸ viewer_claim claimed
  | append_singleton later ev ih =>
    have kept := ih fun earlier ev isPrefix =>
      undisturbed earlier ev (isPrefix.trans (List.prefix_append ..))
    have harmless := undisturbed later ev (List.prefix_refl _)
    rw [run_snoc]
    refine (viewer_step (keyed later) kept ?_).mpr harmless
    rintro rfl
    exact harmless rfl

/-- A guest joins a room as a viewer, and joins it again on a second connection. -/
def returning : List Event :=
  let guest : Option Inbound := some (.text "\x7b\"roomCode\":\"room\",\"role\":\"viewer\"\x7d")
  [.create "host", .connect 8, .connect 8, .serve ⟨0⟩, .serve ⟨1⟩, .read 0 guest, .read 1 guest]

/-- The first connection, which has lost the slot, hangs up. -/
theorem claim_lasts_returning :
    let w₀ := ((start ⟨4, 2⟩ fun _ => "room").run returning).step (.claim "room" "guest")
    (((start ⟨4, 2⟩ fun _ => "room").run returning).relay.claimViewer "room" "guest").1 = true ∧
    (w₀.run [.read 0 none, .finish 0]).relay.viewer? "room" = some "guest" := by
  refine ⟨rfl, (claim_lasts ⟨4, 2⟩ (fun _ => "room") returning [.read 0 none, .finish 0] rfl rfl rfl
    ?_).1⟩
  intro earlier ev isPrefix
  rcases earlier with _ | ⟨first, _ | ⟨second, rest⟩⟩
  · obtain rfl : ev = .read 0 none := (List.cons_prefix_cons.mp isPrefix).1
    exact not_false
  · obtain ⟨rfl, next⟩ := List.cons_prefix_cons.mp isPrefix
    obtain rfl : ev = .finish 0 := (List.cons_prefix_cons.mp next).1
    rintro ⟨c, called, -, s, live, held⟩
    cases called
    cases live
    cases held
  · have short := isPrefix.length_le
    simp at short

/-- A connection that had come before the claim sits in the slot until it hangs up, and the
claim is gone with it. -/
theorem claim_lost_with_older_connection :
    let w := (start ⟨4, 2⟩ fun _ => "room").run returning
    let w₀ := w.step (.claim "room" "second")
    w.relay.Seated ⟨1⟩ "room" .viewer ∧ (w.relay.claimViewer "room" "second").1 = true ∧
    w₀.relay.viewer? "room" = some "second" ∧
    (w₀.run [.read 1 none, .finish 1]).relay.viewer? "room" = none ∧
    (w₀.run [.read 1 none, .finish 1]).relay.isLive "room" = true :=
  ⟨⟨_, rfl, rfl⟩, rfl, rfl, rfl, rfl⟩

end World

end Signaling

end Rendezvous
