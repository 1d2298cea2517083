import Rendezvous.Proofs.Signaling.History
import Rendezvous.Proofs.Signaling.ViewerClaim

/-!
# Which room a user is in

The relay is asked in which room a user is, and looks through the rooms in whatever order it
keeps them. What it finds is told here by the history of the operations alone
(`membership_by_history`): a user is the presenter of the live rooms that were made for it, and
the viewer of those others whose viewer's slot it was the last to claim. Connections do not
come into it, but for one that sits in the viewer's slot and leaves, which clears the slot.
-/

namespace Rendezvous

namespace Session

variable {s : Session} {user : String}

/-- A user is the presenter if the presenter's slot is theirs. -/
theorem roleOf?_eq_presenter_iff :
    s.roleOf? user = some .presenter ↔ (s.slot .presenter).identity = some user := by
  rw [roleOf?, Role.all, List.find?_cons]
  split
  next isPresenter => exact ⟨fun _ => eq_of_beq isPresenter, fun _ => rfl⟩
  next another =>
    refine ⟨fun found => ?_, fun same => absurd same (beq_eq_false_iff_ne.mp another)⟩
    have isLast := List.mem_of_find?_eq_some found
    rw [List.mem_singleton] at isLast
    cases isLast

/-- And the viewer if only the viewer's slot is. -/
theorem roleOf?_eq_viewer_iff : s.roleOf? user = some .viewer ↔
    (s.slot .presenter).identity ≠ some user ∧ (s.slot .viewer).identity = some user := by
  rw [roleOf?, Role.all, List.find?_cons]
  split
  next isPresenter =>
    refine ⟨fun found => ?_, fun both => absurd (eq_of_beq isPresenter) both.1⟩
    cases found
  next another =>
    rw [List.find?_singleton, and_iff_right (beq_eq_false_iff_ne.mp another)]
    split
    next isViewer => exact ⟨fun _ => eq_of_beq isViewer, fun _ => rfl⟩
    next neither =>
      refine ⟨fun found => ?_, fun same => absurd (beq_iff_eq.mpr same) neither⟩
      cases found

end Session

namespace Relay

variable {r : Relay} {code user : String}

/-! ## The viewer's name -/

/-- The operation gives the viewer's slot of a live room to the user. -/
def Claims (code user : String) (r : Relay) (op : Operation) : Prop :=
  op = .claim code user ∧ (r.claimViewer code user).1 = true

/-- The operation takes the viewer's slot of a room away from whoever has claimed it: another
claim is made, the slot is cleared, the connection in it leaves, or the room is ended. -/
def Declaims (code : String) (r : Relay) : Operation → Prop
  | .claim inside _ | .clear inside => inside = code
  | .leave inside .viewer id => inside = code ∧ r.Seated id code .viewer
  | op => Ends code r op

/-- A claim to the viewer's slot that was the last to be made, and is not given up. -/
def claimed (code user : String) : Tenure := ⟨Claims code user, Declaims code⟩

/-- An operation ends a claim exactly if its deed does. -/
theorem declaims_iff (keyed : Keyed r.rooms) (op : Operation) :
    Declaims code r op ↔ r.Unclaims code op.deed := by
  cases op with
  | evict maxIdle => exact mem_evict_iff keyed maxIdle
  | leave inside role id => cases role <;> exact Iff.rfl
  | _ => exact Iff.rfl

/-- The viewer that a room names was named before, or has just claimed the slot. -/
theorem of_viewer_perform (keyed : Keyed r.rooms) {d : Deed}
    (after : (r.perform d).viewer? code = some user) :
    d = .within code (.claim user) ∨ r.viewer? code = some user := by
  obtain ⟨s', found, named⟩ := Option.bind_eq_some_iff.mp after
  have stays : ∀ s, r.find? code = some s → (s.slot .viewer).identity = some user →
      r.viewer? code = some user :=
    fun s live named => Option.bind_eq_some_iff.mpr ⟨s, live, named⟩
  cases fate_perform keyed d code with
  | untouched same => exact Or.inr (stays s' (same ▸ found) named)
  | begins isDeed absent made =>
    rw [made] at found
    obtain rfl := Option.some.inj found
    cases named
  | ends isDeed live gone =>
    rw [gone] at found
    cases found
  | @moves s ev isDeed live moved =>
    rw [moved] at found
    obtain rfl := Option.some.inj found
    rw [Session.slot, Session.side_step, Side.identity_step] at named
    cases ev with
    | claim other =>
      obtain rfl := Option.some.inj named
      exact Or.inl isDeed
    | clear => cases named
    | detach role id =>
      cases role with
      | presenter => exact Or.inr (stays s live named)
      | viewer =>
        rw [Side.viewerAfter] at named
        split at named
        · cases named
        · exact Or.inr (stays s live named)
    | relay | attach | close | connect | take | drop | wait => exact Or.inr (stays s live named)

/-- A claim is answered with yes exactly if the user is the viewer from then on. -/
theorem viewer?_claim (r : Relay) (code user : String) :
    (r.perform (.within code (.claim user))).viewer? code = some user ↔
      (r.claimViewer code user).1 = true := by
  rw [claimViewer, change_answer, viewer?, find?_within, if_pos rfl, isLive]
  cases r.find? code with
  | none => simp
  | some s => exact ⟨fun _ => rfl, fun _ => rfl⟩

/-- A room names the user whose claim stands. -/
theorem claimed_tracks (code user : String) :
    (claimed code user).Tracks fun r => r.viewer? code = some user where
  fresh r empty := by
    rw [viewer?, find?, empty]
    intro found
    cases found
  step r keyed op := by
    show _ ↔ Claims code user r op ∨ _ ∧ ¬ Declaims code r op
    rw [operate_deed, declaims_iff keyed]
    -- The claim counts as an end of the old claim too, so the two sides of the disjunction
    -- exclude each other.
    by_cases claims : op = .claim code user
    · subst claims
      have ends : r.Unclaims code (Operation.claim code user).deed := rfl
      rw [or_iff_left fun both => both.2 ends]
      exact (viewer?_claim r code user).trans ⟨fun granted => ⟨rfl, granted⟩, And.right⟩
    · have another : op.deed ≠ .within code (.claim user) := by
        intro same
        cases op <;> cases same
        exact claims rfl
      rw [or_iff_right fun both => claims both.1]
      constructor
      · intro after
        have before := (of_viewer_perform keyed after).resolve_left another
        exact ⟨before, (viewer_perform keyed before another).mp after⟩
      · rintro ⟨before, stays⟩
        exact (viewer_perform keyed before another).mpr stays

/-! ## Memberships -/

/-- By the history of a run, the user is in the live room of a code: as its presenter if the
room was made for it, and otherwise as its viewer if its claim is the last that stands. -/
def Qualifies (start : Relay) (ops : List Operation) (user code : String) : Role → Prop
  | .presenter => (start.run ops).isLive code = true ∧ (made code user).Stands start ops
  | .viewer => (start.run ops).isLive code = true ∧ ¬ (made code user).Stands start ops ∧
      (claimed code user).Stands start ops

/-- What holds of the room of a code is what the history says of the user. -/
theorem exists_roleOf?_iff {start : Relay} (empty : start.rooms = []) (ops : List Operation)
    (user code : String) (role : Role) :
    (∃ s, (start.run ops).find? code = some s ∧ s.roleOf? user = some role) ↔
      Qualifies start ops user code role := by
  have presents := (made_tracks code user).iff_stands empty ops
  have claims := (claimed_tracks code user).iff_stands empty ops
  cases role with
  | presenter =>
    rw [Qualifies, ← presents, presenter?_eq_some_iff, isLive]
    simp only [Session.roleOf?_eq_presenter_iff]
    refine (and_iff_right_of_imp ?_).symm
    rintro ⟨s, live, -⟩
    rw [live, Option.isSome_some]
  | viewer =>
    rw [Qualifies, ← presents, ← claims, isLive, presenter?, viewer?]
    cases (start.run ops).find? code with
    | none => simp
    | some s =>
      simp only [Session.roleOf?_eq_viewer_iff, Option.some.injEq, exists_eq_left',
        Option.isSome_some, true_and, Option.bind_some]

/-- A scan of the rooms finds each of them under its own code. -/
theorem find?_of_scan {rooms : List Session} (keyed : Keyed r.rooms) (scan : rooms.Perm r.rooms)
    {s : Session} : s ∈ rooms ↔ r.find? s.code = some s := by
  rw [scan.mem_iff]
  exact ⟨find?_of_mem keyed, fun live => List.mem_of_find?_eq_some live⟩

/-- What is found on a scan of the rooms in any order is a role in one of them. -/
theorem role_of_membership? {rooms : List Session} (keyed : Keyed r.rooms)
    (scan : rooms.Perm r.rooms) {role : Role}
    (found : ({ r with rooms } : Relay).membership? user = some ⟨code, role⟩) :
    ∃ s, r.find? code = some s ∧ s.roleOf? user = some role := by
  obtain ⟨s, mem, isRole⟩ := List.exists_of_findSome?_eq_some found
  obtain ⟨role', holds, same⟩ := Option.map_eq_some_iff.mp isRole
  cases same
  exact ⟨s, (find?_of_scan keyed scan).mp mem, holds⟩

/-- Nothing is found if there is no role to be found. -/
theorem membership?_eq_none_iff {rooms : List Session} (keyed : Keyed r.rooms)
    (scan : rooms.Perm r.rooms) (user : String) :
    ({ r with rooms } : Relay).membership? user = none ↔
      ∀ code role, ¬ ∃ s, r.find? code = some s ∧ s.roleOf? user = some role := by
  rw [membership?, List.findSome?_eq_none_iff]
  constructor
  · rintro nowhere code role ⟨s, live, holds⟩
    obtain rfl := code_of_find? live
    have none := nowhere s ((find?_of_scan keyed scan).mpr live)
    rw [holds] at none
    cases none
  · intro nowhere s mem
    rw [Option.map_eq_none_iff, Option.eq_none_iff_forall_ne_some]
    intro role holds
    exact nowhere s.code role ⟨s, (find?_of_scan keyed scan).mp mem, holds⟩

/-- **A membership is told by the history.** After any run from a relay without rooms, in
whatever order the rooms are looked through: a room is found only if the user qualifies for it,
and none is found exactly if it qualifies for none. A room that was made for the user and has
not been ended since is live and has it as its presenter, whatever else has happened; so a
room is found as long as this one stands, and it is this one if there is no other. -/
theorem membership_by_history (limits : Limits) (candidates : Nat → String) (lines : Lines)
    {ops : List Operation} {start : Relay} (fresh : start = opened limits candidates lines)
    {r : Relay} (reached : r = start.run ops) {rooms : List Session}
    (scan : rooms.Perm r.rooms) (user : String) :
    (∀ code role, ({ r with rooms } : Relay).membership? user = some ⟨code, role⟩ →
      Qualifies start ops user code role) ∧
    (({ r with rooms } : Relay).membership? user = none ↔
      ∀ code role, ¬ Qualifies start ops user code role) ∧
    ∀ code, (made code user).Stands start ops →
      (∃ s, r.find? code = some s ∧ s.roleOf? user = some .presenter) ∧
      (({ r with rooms } : Relay).membership? user).isSome = true ∧
      ((∀ other role, Qualifies start ops user other role → other = code) →
        ({ r with rooms } : Relay).membership? user = some ⟨code, .presenter⟩) := by
  have empty : start.rooms = [] := by
    rw [fresh]
    rfl
  have keyed : Keyed r.rooms := by
    rw [reached]
    exact Tenure.keyed_of_empty empty ops
  have qualified : ∀ code role, (∃ s, r.find? code = some s ∧ s.roleOf? user = some role) ↔
      Qualifies start ops user code role := by
    rw [reached]
    exact exists_roleOf?_iff empty ops user
  have sound : ∀ code role, ({ r with rooms } : Relay).membership? user = some ⟨code, role⟩ →
      Qualifies start ops user code role :=
    fun code role found => (qualified code role).mp (role_of_membership? keyed scan found)
  have missing := membership?_eq_none_iff keyed scan user
  simp only [qualified] at missing
  refine ⟨sound, missing, fun code stands => ?_⟩
  have live : r.isLive code = true := by
    have isPresenter := ((made_tracks code user).iff_stands empty ops).mpr stands
    obtain ⟨s, found, -⟩ := presenter?_eq_some_iff.mp isPresenter
    rw [reached, isLive, found, Option.isSome_some]
  have presents : Qualifies start ops user code .presenter := ⟨reached ▸ live, stands⟩
  -- The scan finds someone, as this room alone would do. Which room it finds depends on the
  -- order.
  have found : ∃ m, ({ r with rooms } : Relay).membership? user = some m := by
    rw [← Option.ne_none_iff_exists']
    intro none
    exact missing.mp none code .presenter presents
  refine ⟨(qualified code .presenter).mpr presents, Option.isSome_iff_exists.mpr found, ?_⟩
  intro only
  obtain ⟨⟨other, role⟩, isFound⟩ := found
  have qualifies := sound other role isFound
  obtain rfl := only other role qualifies
  cases role with
  | presenter => exact isFound
  | viewer => exact absurd stands qualifies.2.1

/-- A user has a room made for it, loses its connection there, and claims the viewer's slot of
another room. -/
def wandering : List Operation :=
  [.create "host", .create "stranger", .join "den" .presenter ⟨0⟩, .claim "room" "guest",
    .claim "room" "host", .leave "den" .presenter ⟨0⟩, .claim "den" "guest"]

/-- With the rooms in the order in which they were made the first is found, and the second if
they are looked through from the end. -/
theorem membership_by_history_wandering :
    let r := quarters.run wandering
    r.membership? "host" = some ⟨"den", .presenter⟩ ∧
    ({ r with rooms := r.rooms.reverse } : Relay).membership? "host" = some ⟨"room", .viewer⟩ ∧
    Qualifies quarters wandering "host" "den" .presenter ∧
    Qualifies quarters wandering "host" "room" .viewer ∧
    ({ r with rooms := r.rooms.reverse } : Relay).membership? "nobody" = none ∧
    ¬ Qualifies quarters wandering "nobody" "room" .viewer := by
  intro r
  have first : r.membership? "host" = some ⟨"den", .presenter⟩ := by decide +kernel
  have last : ({ r with rooms := r.rooms.reverse } : Relay).membership? "host" =
      some ⟨"room", .viewer⟩ := by decide +kernel
  have nowhere : ({ r with rooms := r.rooms.reverse } : Relay).membership? "nobody" = none := by
    decide +kernel
  have forwards := membership_by_history ⟨4, 2⟩ _ _ (show quarters = opened .. from rfl)
    (show r = _ from rfl) (List.Perm.refl r.rooms)
  have backwards := membership_by_history ⟨4, 2⟩ _ _ (show quarters = opened .. from rfl)
    (show r = _ from rfl) (List.reverse_perm r.rooms)
  exact ⟨first, last, (forwards "host").1 _ _ first, (backwards "host").1 _ _ last, nowhere,
    (backwards "nobody").2.1.mp nowhere "room" .viewer⟩

end Relay

end Rendezvous
